import DpIntegrator.Effects.Environment
import DpIntegrator.Paging.Page
import DpIntegrator.Delivery.Watermarks
import DpIntegrator.Delivery.Responses

/-!
# The cursor never passes an order that was not observed

Polls of one connection run one after another, and each may stop at any call. Between their
calls orders are created and updated, time passes, and other activities use the stores.
-/

namespace DpIntegrator

open Effects

/-- The stores, the orders of the shop with their versions, and the time, as Shopify has them. -/
structure Scene where
  stores : World
  orders : List OrderSummary
  clock : ℤ

/-- What happens beside the calls of a poll. -/
inductive Elsewhere
  /-- An order is created, or updated. -/
  | stamped (summary : OrderSummary)
  | waited
  /-- Another activity uses the stores. -/
  | stored

abbrev PollHappening := Happening Op Op.Resp Elsewhere

variable {read : String → ℤ} {deps : CatchupDeps} {config : CatchupConfig}
  {connectionId : String} {key : WatermarkKey} {s s' s₁ s₂ : Scene} {hs hs' : List PollHappening}
  {o : OrderSummary} {start : ℤ}

/-- How Shopify and the clock of the poller answer: a listing shows the first orders at or after
its cursor, oldest first, and the clock is ahead of Shopify's by less than the overlap. -/
structure Faithful (read : String → ℤ) (config : CatchupConfig) (s : Scene) (ev : Ev) : Prop where
  listed : ∀ connection since limit page,
    ev = answered (.listOrdersUpdatedSince connection since limit) (.ok page) →
    Paging.IsPage (OrderSummary.time read) s.orders (read since) limit page
  ahead : ∀ now : ℤ, ev = ⟨.clock, now⟩ → now < s.clock + config.overlapSecondsOnEmpty * 1000
  /-- A time that is printed as a cursor is read as that time. -/
  printed : ∀ now : ℤ, ev = ⟨.clock, now⟩ →
    read (Js.toISOString (now - config.overlapSecondsOnEmpty * 1000)) =
      now - config.overlapSecondsOnEmpty * 1000

/-- What can happen to a scene. An update stamps the time at which it happens, and nothing but
the polls writes the cursor of `key`. -/
inductive Happens (read : String → ℤ) (config : CatchupConfig) (key : WatermarkKey) :
    PollHappening → Scene → Scene → Prop
  | call {ev : Ev} {s : Scene} {w : World} (hstep : World.Step ev.1 s.stores ev.2 w)
      (hfaithful : Faithful read config s ev) :
      Happens read config key (.call ev) s { s with stores := w }
  | stamped {summary : OrderSummary} {s : Scene} (hstamp : summary.time read = s.clock) :
      Happens read config key (.other (.stamped summary)) s
        { s with orders := summary :: s.orders.filter fun o => o.id ≠ summary.id }
  | waited {s : Scene} {clock : ℤ} (hle : s.clock ≤ clock) :
      Happens read config key (.other .waited) s { s with clock }
  | stored {s : Scene} {w : World}
      (hkept : w.watermarks key.text = s.stores.watermarks key.text) :
      Happens read config key (.other .stored) s { s with stores := w }

/-- The happenings of a list take one scene to another. -/
abbrev Scene.Unfolds (read : String → ℤ) (config : CatchupConfig) (key : WatermarkKey) :
    Scene → List PollHappening → Scene → Prop := Effects.Unfolds (Happens read config key)

/-! ## What happenings keep -/

theorem Scene.Unfolds.clock_le (h : s.Unfolds read config key hs s') : s.clock ≤ s'.clock := by
  refine Effects.Unfolds.preserves (P := fun s' => s.clock ≤ s'.clock) h ?_ le_rfl
  intro x _ s₁ s₂ hx hle
  cases hx with
  | call | stamped | stored => exact hle
  | waited hwait => exact le_trans hle hwait

/-- An order of a later scene was there with its version, or was stamped since. -/
theorem Scene.Unfolds.order_cases (h : s.Unfolds read config key hs s') (ho : o ∈ s'.orders) :
    o ∈ s.orders ∨ s.clock ≤ o.time read := by
  have hall : (∀ o ∈ s'.orders, o ∈ s.orders ∨ s.clock ≤ o.time read) ∧ s.clock ≤ s'.clock := by
    refine Effects.Unfolds.preserves (P := fun s' =>
      (∀ o ∈ s'.orders, o ∈ s.orders ∨ s.clock ≤ o.time read) ∧ s.clock ≤ s'.clock) h ?_
      ⟨fun o ho => .inl ho, le_rfl⟩
    intro x _ s₁ s₂ hx hs₁
    obtain ⟨horders, hle⟩ := hs₁
    cases hx with
    | call | stored => exact ⟨horders, hle⟩
    | waited hwait => exact ⟨horders, le_trans hle hwait⟩
    | stamped hstamp =>
      refine ⟨fun o ho => ?_, hle⟩
      obtain rfl | ho := List.mem_cons.mp ho
      · right
        omega
      · exact horders o (List.mem_of_mem_filter ho)
  exact hall.1 o ho

/-- No order is stamped with a time to come. -/
def Scene.Stamped (read : String → ℤ) (s : Scene) : Prop := ∀ o ∈ s.orders, o.time read ≤ s.clock

theorem Scene.Stamped.of_unfolds (hs₀ : s.Stamped read) (h : s.Unfolds read config key hs s') :
    s'.Stamped read := by
  refine Effects.Unfolds.preserves h ?_ hs₀
  intro x _ s₁ s₂ hx hstamped o ho
  cases hx with
  | call | stored => exact hstamped o ho
  | waited hwait => exact le_trans (hstamped o ho) hwait
  | stamped hstamp =>
    obtain rfl | ho := List.mem_cons.mp ho
    · exact le_of_eq hstamp
    · exact hstamped o (List.mem_of_mem_filter ho)

/-- Without a call that writes a cursor, the cursor stays. -/
theorem Scene.Unfolds.watermark_eq (h : s.Unfolds read config key hs s')
    (hset : ∀ parts cursor u, answered (.setWatermark parts cursor) (.ok u) ∉ callsIn hs) :
    s'.stores.watermarks key.text = s.stores.watermarks key.text := by
  refine Effects.Unfolds.preserves
    (P := fun s' => s'.stores.watermarks key.text = s.stores.watermarks key.text) h ?_ rfl
  intro x hx s₁ s₂ hhappens heq
  cases hhappens with
  | @call ev _ w hstep _ =>
    have hsame := hstep.watermarks_eq fun parts cursor u hev =>
      hset parts cursor u (hev ▸ mem_callsIn.mpr hx)
    exact (congrFun hsame _).trans heq
  | stamped | waited => exact heq
  | stored hkept => exact hkept.trans heq

/-! ## One poll -/

/-- A poll that may have stopped at any call. -/
def Polling (deps : CatchupDeps) (config : CatchupConfig) (connectionId : String)
    (hs : List PollHappening) : Prop :=
  Partial (pollOneConnection deps config connectionId).run (callsIn hs)

theorem Polling.extends (h : Polling deps config connectionId hs) :
    ∃ later out, PollEnds deps config connectionId (callsIn hs ++ later) out := by
  obtain ⟨later, out, hruns⟩ := h.exists_runs
  exact ⟨later, out, pollOneConnection_ends hruns⟩

/-- A poll that has not written its cursor has written none. -/
theorem Polling.not_set (h : Polling deps config connectionId hs)
    (hnot : ¬Stores deps connectionId (callsIn hs)) (parts : WatermarkKey) (cursor : String)
    (u : Unit) : answered (.setWatermark parts cursor) (.ok u) ∉ callsIn hs := by
  intro hmem
  obtain ⟨later, out, hends⟩ := h.extends
  obtain ⟨rfl, _⟩ := hends.of_mem_set (List.mem_append_left later hmem)
  exact hnot ⟨cursor, hmem⟩

/-- The calls of a poll that has written its cursor. -/
theorem Polling.stores (h : Polling deps config connectionId hs)
    (hstores : Stores deps connectionId (callsIn hs)) :
    ∃ connection now existing page t n post,
      callsIn hs = listing deps config connectionId connection now existing page ++ (t ++
        answered (.setWatermark (watermarkKey deps.environment connectionId)
          (newCursor config now page)) (.ok ()) :: post) ∧
      Visits deps connectionId connection now page t n ∧
      ∀ ev ∈ post, ∃ metric, ev = ⟨.track metric, ()⟩ := by
  obtain ⟨cursor, hmem⟩ := hstores
  obtain ⟨later, out, hends⟩ := h.extends
  obtain ⟨_, connection, now, existing, page, t, n, post, heq, rfl, hvisits, hpost⟩ :=
    hends.of_mem_set (List.mem_append_left later hmem)
  rw [← List.append_assoc] at heq
  obtain ⟨rest, hbefore, _⟩ | ⟨rest, hcalls, hafter⟩ := List.append_eq_append_iff.mp heq
  · have hearly : answered (.setWatermark (watermarkKey deps.environment connectionId)
        (newCursor config now page)) (.ok ()) ∈
        listing deps config connectionId connection now existing page ++ t := by
      rw [hbefore]
      exact List.mem_append_left _ hmem
    obtain hearly | hearly := List.mem_append.mp hearly
    · exact absurd hearly listing_not_set
    · exact absurd hearly hvisits.not_set
  · cases rest with
    | nil =>
      rw [List.append_nil] at hcalls
      rw [hcalls] at hmem
      obtain hearly | hearly := List.mem_append.mp hmem
      · exact absurd hearly listing_not_set
      · exact absurd hearly hvisits.not_set
    | cons ev rest =>
      obtain ⟨rfl, hpost'⟩ := List.cons.inj hafter
      refine ⟨connection, now, existing, page, t, n, rest, ?_, hvisits, fun ev hev => ?_⟩
      · rw [hcalls, List.append_assoc]
      · apply hpost
        rw [hpost']
        exact List.mem_append_left _ hev

/-- What a poll that has written its cursor did: it started from the cursor that was stored,
listed a page of the orders as they were at one time, observed every order of the page, and
stored the cursor that the page or, if it was empty, the clock gives. -/
structure StoredPoll (read : String → ℤ) (deps : CatchupDeps) (config : CatchupConfig)
    (connectionId : String) (s : Scene) (hs : List PollHappening) (s' : Scene) (now : ℤ)
    (since : String) (page : List OrderSummary) (mid : Scene) : Prop where
  since_eq : since = fromCursor config now
    (s.stores.watermarks (watermarkKey deps.environment connectionId).text)
  listed : ∀ connection since' limit page',
    answered (.listOrdersUpdatedSince connection since' limit) (.ok page') ∈ callsIn hs →
    since' = since
  before : ∃ hs₁, s.Unfolds read config (watermarkKey deps.environment connectionId) hs₁ mid
  after : ∃ hs₂, mid.Unfolds read config (watermarkKey deps.environment connectionId) hs₂ s'
  paged : Paging.IsPage (OrderSummary.time read) mid.orders (read since) config.pageSize page
  ahead : now < mid.clock + config.overlapSecondsOnEmpty * 1000
  printed : read (Js.toISOString (now - config.overlapSecondsOnEmpty * 1000)) =
    now - config.overlapSecondsOnEmpty * 1000
  observes : ∀ o ∈ page, Observes deps connectionId (callsIn hs) o
  stored : Stored s'.stores (watermarkKey deps.environment connectionId) (newCursor config now page)

theorem Polling.storedPoll (hpoll : Polling deps config connectionId hs)
    (h : s.Unfolds read config (watermarkKey deps.environment connectionId) hs s')
    (hstores : Stores deps connectionId (callsIn hs)) :
    ∃ now since page mid, StoredPoll read deps config connectionId s hs s' now since page mid := by
  obtain ⟨connection, now, existing, page, t, n, post, hcalls, hvisits, hpost⟩ :=
    hpoll.stores hstores
  have hobserves : ∀ o ∈ page, Observes deps connectionId (callsIn hs) o := by
    intro o ho
    rw [hcalls]
    exact hvisits.observes ho
  have honly : ∀ connection' since' limit page',
      answered (.listOrdersUpdatedSince connection' since' limit) (.ok page') ∈ callsIn hs →
      since' = fromCursor config now existing := by
    intro connection' since' limit page' hmem
    rw [hcalls] at hmem
    exact (hvisits.listed_eq hpost hmem).1
  -- The happenings fall apart at the clock, the cursor that is read, the listing and the
  -- cursor that is written.
  rw [← List.append_assoc] at hcalls
  obtain ⟨hsA, hsB, rfl, hcallsA, hcallsB⟩ := exists_of_callsIn hcalls
  have hlisting : callsIn hsA = [⟨.clock, now⟩,
      answered (.findConnection deps.environment connectionId) (.ok (some connection)),
      answered (.getWatermark (watermarkKey deps.environment connectionId)) (.ok existing)] ++
      answered (.listOrdersUpdatedSince connection (fromCursor config now existing) config.pageSize)
        (.ok page) :: t := hcallsA
  obtain ⟨hsC, hsD, rfl, hcallsC, _⟩ := exists_of_callsIn hlisting
  have hreading : callsIn hsC = [⟨.clock, now⟩,
      answered (.findConnection deps.environment connectionId) (.ok (some connection))] ++
      answered (.getWatermark (watermarkKey deps.environment connectionId)) (.ok existing) :: [] :=
    hcallsC
  obtain ⟨hsE, hsF, rfl, hcallsE, _⟩ := exists_of_callsIn hreading
  have hstarting : callsIn hsE = [] ++ (⟨.clock, now⟩ : Ev) ::
      [answered (.findConnection deps.environment connectionId) (.ok (some connection))] := hcallsE
  obtain ⟨hsG, hsH, rfl, hcallsG, hcallsH⟩ := exists_of_callsIn hstarting
  obtain ⟨s₄, hbeforeSet, hfromSet⟩ := unfolds_append.mp h
  obtain ⟨s₅, hset, hafterSet⟩ := unfolds_cons.mp hfromSet
  obtain ⟨mid, hbeforeList, hfromList⟩ := unfolds_append.mp hbeforeSet
  obtain ⟨s₃, hlist, hafterList⟩ := unfolds_cons.mp hfromList
  obtain ⟨s₂, hbeforeGet, hfromGet⟩ := unfolds_append.mp hbeforeList
  obtain ⟨s₁, hget, hafterGet⟩ := unfolds_cons.mp hfromGet
  obtain ⟨s₀, hbeforeClock, hfromClock⟩ := unfolds_append.mp hbeforeGet
  obtain ⟨s₆, hclock, hafterClock⟩ := unfolds_cons.mp hfromClock
  have hread : existing = s.stores.watermarks (watermarkKey deps.environment connectionId).text := by
    have hkept := Scene.Unfolds.watermark_eq hbeforeGet fun parts cursor u hmem => by
      rw [hcallsE] at hmem
      simp at hmem
    cases hget with
    | call hstep => exact hstep.getWatermark_ok.1.trans hkept
  have hstored : Stored s'.stores (watermarkKey deps.environment connectionId)
      (newCursor config now page) := by
    have hkept := Scene.Unfolds.watermark_eq hafterSet fun parts cursor u hmem => by
      rw [hcallsB] at hmem
      obtain ⟨_, heq⟩ := hpost _ hmem
      cases heq
    cases hset with
    | call hstep => exact hstep.stored.of_eq hkept
  have hahead : now < mid.clock + config.overlapSecondsOnEmpty * 1000 ∧
      read (Js.toISOString (now - config.overlapSecondsOnEmpty * 1000)) =
        now - config.overlapSecondsOnEmpty * 1000 := by
    have hle₁ := Scene.Unfolds.clock_le hafterClock
    have hle₂ := Scene.Unfolds.clock_le hafterGet
    cases hclock with
    | call _ hfaithful =>
      have hahead := hfaithful.ahead now rfl
      refine ⟨?_, hfaithful.printed now rfl⟩
      cases hget with
      | call =>
        dsimp only at hle₁ hle₂
        omega
  cases hlist with
  | call hstep hfaithful =>
    refine ⟨now, fromCursor config now existing, page, mid, ?_⟩
    exact {
      since_eq := congrArg (fromCursor config now) hread
      listed := honly
      before := ⟨_, hbeforeList⟩
      after := ⟨_, unfolds_append.mpr ⟨_, hfromList, hfromSet⟩⟩
      paged := hfaithful.listed _ _ _ _ rfl
      ahead := hahead.1
      printed := hahead.2
      observes := hobserves
      stored := hstored }

/-! ## The invariant -/

/-- The stored cursor is no time to come, and every order between `start` and it was seen at
its version. -/
structure CursorSafe (read : String → ℤ) (key : WatermarkKey) (start : ℤ)
    (seen : OrderSummary → Prop) (s : Scene) : Prop where
  stamped : s.Stamped read
  cursor : ∃ cursor, Stored s.stores key cursor
  past : ∀ cursor, Stored s.stores key cursor → read cursor ≤ s.clock
  passed : ∀ cursor, Stored s.stores key cursor → ∀ o ∈ s.orders, start ≤ o.time read →
    o.time read < read cursor → seen o

section Invariant

variable {seen seen' : OrderSummary → Prop} {now : ℤ} {since : String} {page : List OrderSummary}
  {mid : Scene}

theorem CursorSafe.mono (h : CursorSafe read key start seen s) (hseen : ∀ o, seen o → seen' o) :
    CursorSafe read key start seen' s :=
  ⟨h.stamped, h.cursor, h.past,
    fun cursor hstored o ho hstart hlt => hseen o (h.passed cursor hstored o ho hstart hlt)⟩

/-- Without a write of the cursor, the invariant stays: an order that is stamped now is not
before the cursor. -/
theorem CursorSafe.of_unfolds (hsafe : CursorSafe read key start seen s)
    (h : s.Unfolds read config key hs s')
    (hset : ∀ parts cursor u, answered (.setWatermark parts cursor) (.ok u) ∉ callsIn hs) :
    CursorSafe read key start seen s' := by
  have hkept := h.watermark_eq hset
  have hback {cursor : String} (hstored : Stored s'.stores key cursor) :
      Stored s.stores key cursor := hstored.of_eq hkept.symm
  refine ⟨hsafe.stamped.of_unfolds h, ?_, fun cursor hstored => ?_, ?_⟩
  · obtain ⟨cursor, hstored⟩ := hsafe.cursor
    exact ⟨cursor, hstored.of_eq hkept⟩
  · exact le_trans (hsafe.past cursor (hback hstored)) h.clock_le
  · intro cursor hstored o ho hstart hlt
    obtain ho | hlater := h.order_cases ho
    · exact hsafe.passed cursor (hback hstored) o ho hstart hlt
    · have hpast := hsafe.past cursor (hback hstored)
      omega

/-- The new cursor is no later than the time of the page. -/
theorem StoredPoll.newCursor_le (h : StoredPoll read deps config connectionId s hs s' now since page mid)
    (hstamped : s.Stamped read) : read (newCursor config now page) ≤ mid.clock := by
  obtain ⟨hs₁, hbefore⟩ := h.before
  have hmid := hstamped.of_unfolds hbefore
  unfold newCursor
  cases hlast : page.getLast? with
  | none =>
    have hahead := h.ahead
    simp only [h.printed]
    omega
  | some last =>
    have hlisted := (h.paged.of_mem (List.mem_of_getLast? hlast)).1
    exact hmid last hlisted

/-- Orders between the old cursor and the new one were listed, and observed. -/
theorem StoredPoll.observes_between
    (h : StoredPoll read deps config connectionId s hs s' now since page mid)
    (hsize : 0 < config.pageSize) (hstamped : s.Stamped read) (ho : o ∈ s'.orders)
    (hsince : read since ≤ o.time read) (hlt : o.time read < read (newCursor config now page)) :
    Observes deps connectionId (callsIn hs) o := by
  obtain ⟨hs₂, hafter⟩ := h.after
  have hle := h.newCursor_le hstamped
  have hlisted : o ∈ mid.orders := by
    obtain ho | hlater := hafter.order_cases ho
    · exact ho
    · omega
  apply h.observes
  cases hlast : page.getLast? with
  | none =>
    have hnil := List.getLast?_eq_none_iff.mp hlast
    have hpaged := h.paged
    rw [hnil] at hpaged
    have hbefore := hpaged.lt_of_nil hsize hlisted
    omega
  | some last =>
    have hcursor : read (newCursor config now page) = last.time read := by
      simp [newCursor, hlast, OrderSummary.time]
    rw [hcursor] at hlt
    exact h.paged.mem_of_lt hlisted hsince hlast hlt

/-- A poll that writes its cursor keeps the invariant, if it starts where the invariant does or
from a cursor that kept it. -/
theorem StoredPoll.safe (h : StoredPoll read deps config connectionId s hs s' now since page mid)
    (hsize : 0 < config.pageSize) (hstamped : s.Stamped read)
    (hstart : start = read since ∨
      CursorSafe read (watermarkKey deps.environment connectionId) start seen s) :
    CursorSafe read (watermarkKey deps.environment connectionId) start
      (fun o => seen o ∨ Observes deps connectionId (callsIn hs) o) s' := by
  obtain ⟨hs₁, hbefore⟩ := h.before
  obtain ⟨hs₂, hafter⟩ := h.after
  have hle := h.newCursor_le hstamped
  have hnew {cursor : String}
      (hstored : Stored s'.stores (watermarkKey deps.environment connectionId) cursor) :
      cursor = newCursor config now page := hstored.unique h.stored
  refine ⟨(hstamped.of_unfolds hbefore).of_unfolds hafter, ⟨_, h.stored⟩, ?_, ?_⟩
  · intro cursor hstored
    rw [hnew hstored]
    exact le_trans hle hafter.clock_le
  · intro cursor hstored o ho hfrom hlt
    rw [hnew hstored] at hlt
    by_cases hsince : read since ≤ o.time read
    · exact .inr (h.observes_between hsize hstamped ho hsince hlt)
    · left
      obtain rfl | hsafe := hstart
      · omega
      · obtain ⟨cursor', hstored'⟩ := hsafe.cursor
        have hfrom' : since = cursor' := h.since_eq.trans (fromCursor_of_stored hstored')
        have hpast := hsafe.past cursor' hstored'
        rw [← hfrom'] at hpast hstored'
        have hold : o ∈ s.orders := by
          obtain ho | hlater := hafter.order_cases ho
          · obtain ho | hlater := hbefore.order_cases ho
            · exact ho
            · omega
          · have hclock := hbefore.clock_le
            omega
        exact hsafe.passed since hstored' o hold hfrom (by omega)

/-- Once a cursor is stored, every poll keeps the invariant, whether it stops early or not. -/
theorem CursorSafe.of_poll
    (hsafe : CursorSafe read (watermarkKey deps.environment connectionId) start seen s)
    (hsize : 0 < config.pageSize) (hpoll : Polling deps config connectionId hs)
    (h : s.Unfolds read config (watermarkKey deps.environment connectionId) hs s') :
    CursorSafe read (watermarkKey deps.environment connectionId) start
      (fun o => seen o ∨ Observes deps connectionId (callsIn hs) o) s' := by
  by_cases hstores : Stores deps connectionId (callsIn hs)
  · obtain ⟨now, since, page, mid, hstored⟩ := hpoll.storedPoll h hstores
    exact hstored.safe hsize hsafe.stamped (.inr hsafe)
  · have hkept := hsafe.of_unfolds h (hpoll.not_set hstores)
    exact hkept.mono fun o ho => .inl ho

/-- Induction on the polls. -/
theorem CursorSafe.of_polls {polls : List (List PollHappening)}
    (hsafe : CursorSafe read (watermarkKey deps.environment connectionId) start seen s)
    (hsize : 0 < config.pageSize) (hpolls : ∀ hs ∈ polls, Polling deps config connectionId hs)
    (h : s.Unfolds read config (watermarkKey deps.environment connectionId) polls.flatten s') :
    CursorSafe read (watermarkKey deps.environment connectionId) start
      (fun o => seen o ∨ ∃ hs ∈ polls, Observes deps connectionId (callsIn hs) o) s' := by
  induction polls generalizing s seen with
  | nil =>
    obtain rfl := unfolds_nil.mp h
    exact hsafe.mono fun o ho => .inl ho
  | cons hs polls ih =>
    obtain ⟨s₁, hfirst, hrest⟩ := unfolds_append.mp h
    have hnext := hsafe.of_poll hsize (hpolls hs (List.mem_cons_self ..)) hfirst
    have hlater := ih hnext (fun hs' hmem => hpolls hs' (List.mem_cons_of_mem _ hmem)) hrest
    refine hlater.mono fun o ho => ?_
    obtain (hseen | hobs) | ⟨hs', hmem, hobs⟩ := ho
    · exact .inl hseen
    · exact .inr ⟨hs, List.mem_cons_self .., hobs⟩
    · exact .inr ⟨hs', List.mem_cons_of_mem _ hmem, hobs⟩

/-- However polls of a connection stop and whatever happens between their calls: every order
whose version lies between the cursor from which a poll that wrote a cursor started, such as
the first one, and the cursor that is stored, was observed at that version. -/
theorem cursor_passes_observed {before rest : List (List PollHappening)} {first : List PollHappening}
    {cursor : String} (hsize : 0 < config.pageSize) (hstamped : s.Stamped read)
    (hrun : s.Unfolds read config (watermarkKey deps.environment connectionId)
      (before ++ first :: rest).flatten s')
    (hpolls : ∀ hs ∈ before ++ first :: rest, Polling deps config connectionId hs)
    (hstores : Stores deps connectionId (callsIn first))
    (hlisted : ∃ connection limit page,
      answered (.listOrdersUpdatedSince connection since limit) (.ok page) ∈ callsIn first)
    (hcursor : Stored s'.stores (watermarkKey deps.environment connectionId) cursor)
    (ho : o ∈ s'.orders) (hstart : read since ≤ o.time read) (hlt : o.time read < read cursor) :
    ∃ hs ∈ before ++ first :: rest, Observes deps connectionId (callsIn hs) o := by
  rw [List.flatten_append, List.flatten_cons] at hrun
  obtain ⟨s₁, hbefore, hfrom⟩ := unfolds_append.mp hrun
  obtain ⟨s₂, hfirst, hrest⟩ := unfolds_append.mp hfrom
  have hstamped₁ := hstamped.of_unfolds hbefore
  obtain ⟨now, since', page', mid, hstored⟩ := (hpolls first (by simp)).storedPoll hfirst hstores
  obtain ⟨connection, limit, page, hmem⟩ := hlisted
  obtain rfl := hstored.listed connection since limit page hmem
  have hsafe : CursorSafe read (watermarkKey deps.environment connectionId) (read since)
      (fun o => False ∨ Observes deps connectionId (callsIn first) o) s₂ :=
    hstored.safe hsize hstamped₁ (.inl rfl)
  have hlater := hsafe.of_polls hsize (fun hs hmem => hpolls hs (by simp [hmem])) hrest
  obtain (hnone | hobs) | ⟨hs, hmem, hobs⟩ := hlater.passed cursor hcursor o ho hstart hlt
  · exact hnone.elim
  · exact ⟨first, by simp, hobs⟩
  · exact ⟨hs, by simp [hmem], hobs⟩

end Invariant

/-! ## A poll of the shop -/

/-- Calls without other happenings, while the orders and the time stay as they are. -/
theorem unfolds_calls {w w' : World} {tr : List Ev} {orders : List OrderSummary} {clock : ℤ}
    (h : w.Steps tr w') (hfaithful : ∀ ev ∈ tr, ∀ w, Faithful read config ⟨w, orders, clock⟩ ev) :
    Scene.Unfolds read config key ⟨w, orders, clock⟩ (tr.map .call) ⟨w', orders, clock⟩ := by
  induction h with
  | nil => exact .nil _
  | cons hstep _ ih =>
    refine .cons (.call hstep (hfaithful _ (List.mem_cons_self ..) _)) ?_
    exact ih fun ev hev => hfaithful ev (List.mem_cons_of_mem _ hev)

/-- The cursor and the limit of a listing. -/
def listedBy : Ev → Option (String × ℕ)
  | ⟨.io (.listOrdersUpdatedSince _ since limit), .ok _⟩ => some (since, limit)
  | _ => none

theorem exists_listed {tr : List Ev} {since : String} {limit : ℕ}
    (h : (since, limit) ∈ tr.filterMap listedBy) : ∃ connection limit page,
      answered (.listOrdersUpdatedSince connection since limit) (.ok page) ∈ tr := by
  obtain ⟨ev, hev, hlisted⟩ := List.mem_filterMap.mp h
  unfold listedBy at hlisted
  split at hlisted
  · cases hlisted
    exact ⟨_, _, _, hev⟩
  · cases hlisted

/-- The cursor that a call wrote. -/
def setBy : Ev → Option (WatermarkKey × String)
  | ⟨.io (.setWatermark parts cursor), .ok _⟩ => some (parts, cursor)
  | _ => none

theorem stores_of_setBy {tr : List Ev} {cursor : String}
    (h : (watermarkKey deps.environment connectionId, cursor) ∈ tr.filterMap setBy) :
    Stores deps connectionId tr := by
  obtain ⟨ev, hev, hset⟩ := List.mem_filterMap.mp h
  unfold setBy at hset
  split at hset
  · cases hset
    exact ⟨cursor, hev⟩
  · cases hset

theorem stored_of_lastCursor {w : World} {cursor : String}
    (h : (w.watermarks key.text).bind SyncWatermarkRow.lastCursor = some cursor) :
    Stored w key cursor := Option.bind_eq_some_iff.mp h

namespace Shop

/-- How Shopify reads times. -/
def readTime (text : String) : ℤ := (Js.readIso text.toList).getD 0

/-- Two orders of the shop, the older one first. -/
def older : OrderSummary := ⟨order.id, order.updatedAt⟩

def newer : OrderSummary := ⟨"gid://shopify/Order/2", "2026-01-05T11:00:00Z"⟩

/-- Services that list both orders. -/
def listsBoth : Responder where
  answers
    | .listOrdersUpdatedSince .. => .ok [older, newer]
    | c => answers c

def catchupDeps : CatchupDeps := ⟨.dev, true, true, true⟩

/-- The poll that lists both. -/
def pollsBoth : (Activity.poll catchupDeps {} "conn-a").Record × World :=
  listsBoth.perform (.poll catchupDeps {} "conn-a") world

/-- The time of the newer order. -/
def noon : ℤ := newer.time readTime

/-- The calls of that poll, with nothing between them. -/
def bothCalls : List PollHappening := pollsBoth.1.1.map .call

theorem isPage_both : Paging.IsPage (OrderSummary.time readTime) [older, newer]
    (readTime "1969-12-31T00:00:00.000Z") 50 [older, newer] := by
  have hpage : Paging.pageOf (OrderSummary.time readTime) [older, newer]
      (readTime "1969-12-31T00:00:00.000Z") 50 = [older, newer] := by decide +kernel
  rw [← hpage]
  exact Paging.isPage_pageOf (by rw [hpage]; decide +kernel)

theorem pollsBoth_faithful : ∀ ev ∈ pollsBoth.1.1, ∀ w,
    Faithful readTime {} ⟨w, [older, newer], noon⟩ ev := by
  intro ev hev w
  obtain ⟨v, hanswer⟩ := listsBoth.mem_perform hev
  have hlistings : ∀ p ∈ pollsBoth.1.1.filterMap listedBy, p = ("1969-12-31T00:00:00.000Z", 50) := by
    decide +kernel
  have hclock {now : ℤ} (heq : ev = ⟨.clock, now⟩) : now = 0 := by
    subst heq
    exact hanswer
  constructor
  · rintro connection since limit page rfl
    have hlisted := hlistings (since, limit) (List.mem_filterMap.mpr ⟨_, hev, rfl⟩)
    obtain ⟨rfl, rfl⟩ := Prod.mk.inj hlisted
    obtain rfl : page = [older, newer] := Except.ok.inj hanswer
    exact isPage_both
  · intro now heq
    rw [hclock heq]
    have hahead : 0 < noon + 60 * 1000 := by decide +kernel
    exact hahead
  · intro now heq
    rw [hclock heq]
    decide +kernel

theorem callsIn_bothCalls : callsIn bothCalls = pollsBoth.1.1 := callsIn_map _

theorem bothCalls_unfold : Scene.Unfolds readTime {} (watermarkKey .dev "conn-a")
    ⟨world, [older, newer], noon⟩ ([] ++ [bothCalls]).flatten
    ⟨pollsBoth.2, [older, newer], noon⟩ := by
  have hperforms := listsBoth.performs (.poll catchupDeps {} "conn-a") world
  have hunfold : Scene.Unfolds readTime {} (watermarkKey .dev "conn-a")
      ⟨world, [older, newer], noon⟩ bothCalls ⟨pollsBoth.2, [older, newer], noon⟩ :=
    unfolds_calls hperforms.steps pollsBoth_faithful
  simpa using hunfold

theorem bothCalls_polling : Polling catchupDeps {} "conn-a" bothCalls := by
  have hperforms := listsBoth.performs (.poll catchupDeps {} "conn-a") world
  have hruns : Runs (pollOneConnection catchupDeps {} "conn-a").run (pollsBoth.1.1 ++ [])
      pollsBoth.1.2 := by
    rw [List.append_nil]
    exact hperforms.runs
  rw [Polling, callsIn_bothCalls]
  exact hruns.partial_of_append

end Shop

/-- The poll observed the older order, which the cursor has passed. -/
theorem cursor_passes_observed_shop : ∃ hs ∈ [] ++ [Shop.bothCalls],
    Observes Shop.catchupDeps "conn-a" (callsIn hs) Shop.older := by
  have hstores : Stores Shop.catchupDeps "conn-a" (callsIn Shop.bothCalls) := by
    rw [Shop.callsIn_bothCalls]
    exact stores_of_setBy (by decide +kernel : (watermarkKey .dev "conn-a", Shop.newer.updatedAt) ∈ _)
  have hlisted : ∃ connection limit page, answered (.listOrdersUpdatedSince connection
      "1969-12-31T00:00:00.000Z" limit) (.ok page) ∈ callsIn Shop.bothCalls := by
    rw [Shop.callsIn_bothCalls]
    exact exists_listed (by decide +kernel : ("1969-12-31T00:00:00.000Z", 50) ∈ _)
  have hcursor : Stored Shop.pollsBoth.2 (watermarkKey .dev "conn-a") Shop.newer.updatedAt :=
    stored_of_lastCursor (by decide +kernel)
  refine cursor_passes_observed (by decide) (fun o ho => ?_) Shop.bothCalls_unfold
    (fun hs hmem => ?_) hstores hlisted hcursor (by simp) (by decide +kernel) (by decide +kernel)
  · obtain rfl | ho := List.mem_cons.mp ho
    · decide +kernel
    · rw [List.mem_singleton.mp ho]
      exact le_rfl
  · obtain rfl := List.mem_singleton.mp hmem
    exact Shop.bothCalls_polling

end DpIntegrator
