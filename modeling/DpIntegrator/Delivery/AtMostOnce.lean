import DpIntegrator.Delivery.Catchup
import DpIntegrator.Delivery.Threads

/-!
# Order writes under concurrency

However deliveries of one order overlap, each of their order upserts is paid for by a new
claim, and a claim is new only when the row is absent. So there are no more order upserts
than times the row was removed, and one.
-/

namespace DpIntegrator

open Effects

variable {w w' : World} {key : String} {tr : List Ev} {d : Delivery}

/-- A handling of messages about the row of `key`; what other threads work on is left open. -/
def Thread.On (key : String) : Thread → Prop
  | runs (.handle deps message _) => ∀ msg, parseOrderWebhookMessage message = .ok msg →
    dedupKey (orderParts deps.environment msg.connectionId msg.orderGid) = .ok key
  | _ => True

/-- A new claim of the row of `key`. -/
def claims (key : String) : Ev → Bool
  | ⟨.io (.claim input), .ok res⟩ =>
    res.outcome = .claimed ∧ (dedupKey input.parts).toOption = some key
  | _ => false

/-- A deletion that removed the row of `key`. -/
def removes (key : String) : Ev → Bool
  | ⟨.io (.deleteXref parts), .ok (some _)⟩ => (dedupKey parts).toOption = some key
  | _ => false

/-- `ev` is the write of the order of `d`, and before it the same thread received a new
claim and fetched the order, which was eligible. -/
def ClaimedWrite (d : Delivery) (ev : Ev) (calls : List Ev) : Prop :=
  ∃ payload r claim order before after, ev = upserted d payload r ∧
    calls = before ++ ev :: after ∧
    claimedBy d (.ok claim) ∈ before ∧ claim.outcome = .claimed ∧
    fetched d (.ok order) ∈ before ∧ checkEligibility order d.msg.topic {} = .eligible

/-! ## One thread -/

theorem ClaimedWrite.cons {ev ev' : Ev} (h : ClaimedWrite d ev tr) :
    ClaimedWrite d ev (ev' :: tr) := by
  obtain ⟨payload, r, claim, order, before, after, hw, rfl, hclaim, houtcome, hfetch, helig⟩ := h
  exact ⟨payload, r, claim, order, ev' :: before, after, hw, rfl,
    List.mem_cons_of_mem _ hclaim, houtcome, List.mem_cons_of_mem _ hfetch, helig⟩

/-- An element of a filtered list stands in the list where it stands in the filtered one. -/
theorem exists_of_main_eq {t₁ t₂ : List Ev} {ev : Ev} (h : main tr = t₁ ++ ev :: t₂) :
    ∃ s₁ s₂, tr = s₁ ++ ev :: s₂ ∧ main s₁ = t₁ ∧ main s₂ = t₂ := by
  obtain ⟨s₁, s, rfl, hs₁, hs⟩ := List.filter_eq_append_iff.mp h
  obtain ⟨l₁, l₂, rfl, hl₁, hev, hl₂⟩ := List.filter_eq_cons_iff.mp hs
  have hnone : main l₁ = [] := List.filter_eq_nil_iff.mpr hl₁
  have hfirst : main s₁ = t₁ := hs₁
  exact ⟨s₁ ++ l₁, l₂, by simp, by rw [main_append, hnone, hfirst, List.append_nil], hl₂⟩

/-- The beginning of a list either stops before an element or contains it. -/
theorem prefix_or_mem {α : Type} {l rest before after : List α} {x : α}
    (h : l ++ rest = before ++ x :: after) :
    (∃ more, before = l ++ more) ∨ ∃ l', l = before ++ x :: l' ∧ after = l' ++ rest := by
  obtain ⟨more, hbefore, _⟩ | ⟨more, hl, hmore⟩ := List.append_eq_append_iff.mp h
  · exact .inl ⟨more, hbefore⟩
  · obtain ⟨hnil, _⟩ | ⟨l', hmore', hafter⟩ := List.cons_eq_append_iff.mp hmore
    · exact .inl ⟨[], by rw [hl, hnil, List.append_nil, List.append_nil]⟩
    · exact .inr ⟨l', by rw [hl, hmore'], hafter⟩

/-- What a delivery did so far has no order upsert, or one, after a new claim. -/
theorem deliver_writes_once {rest : List Ev} {res : Except Thrown OrderHandlerOutcome}
    (h : Settles (deliver d) (tr ++ rest) res) :
    orderUpserts tr = [] ∨ ∃ ev, orderUpserts tr = [ev] ∧ ClaimedWrite d ev tr := by
  obtain hnone | ⟨pre, claim, t, houtcome, hpre, hmain, order, payload, r, t', helig, rfl, ht'⟩ :=
    (deliver_exit h).upserts
  · rw [orderUpserts_main, orderUpserts_append] at hnone
    exact .inl (List.append_eq_nil_iff.mp hnone).1
  have hbefore : main (tr ++ rest) = (pre ++ [claimedBy d (.ok claim), fetched d (.ok order)]) ++
      upserted d payload r :: t' := by
    simpa using hmain
  obtain ⟨before, after, heq, hb, ha⟩ := exists_of_main_eq hbefore
  have hnoneBefore : orderUpserts before = [] := by
    rw [← orderUpserts_main, hb, orderUpserts_append, hpre]
    rfl
  have hnoneAfter : orderUpserts after = [] := by
    rw [← orderUpserts_main, ha, ht']
  obtain ⟨more, rfl⟩ | ⟨l', rfl, rfl⟩ := prefix_or_mem heq
  · rw [orderUpserts_append] at hnoneBefore
    exact .inl (List.append_eq_nil_iff.mp hnoneBefore).1
  have hl' : orderUpserts l' = [] := by
    rw [orderUpserts_append] at hnoneAfter
    exact (List.append_eq_nil_iff.mp hnoneAfter).1
  refine .inr ⟨upserted d payload r, ?_, payload, r, claim, order, before, l', rfl, rfl, ?_,
    houtcome, ?_, helig⟩
  · simp [hnoneBefore, hl']
  · exact mem_of_mem_main (hb ▸ by simp)
  · exact mem_of_mem_main (hb ▸ by simp)

/-- What a handling did so far has no order upsert, or one, after a new claim. -/
theorem handle_writes_once {deps : OrderHandlerDeps} {message : Js.Value}
    {attemptCtx : Option AttemptContext} {rest : List Ev}
    {res : Except Thrown OrderHandlerOutcome}
    (h : Settles (handleOrderMessage deps message attemptCtx) (tr ++ rest) res) :
    orderUpserts tr = [] ∨ ∃ msg connection ev,
      parseOrderWebhookMessage message = .ok msg ∧
      connectionFound deps msg.connectionId (.ok (some connection)) ∈ tr ∧
      orderUpserts tr = [ev] ∧ ClaimedWrite ⟨deps, connection, msg, attemptCtx⟩ ev tr := by
  have hbegin {t : List Ev} (heq : tr ++ rest = t) (hnone : orderUpserts t = []) :
      orderUpserts tr = [] := by
    rw [← heq, orderUpserts_append] at hnone
    exact (List.append_eq_nil_iff.mp hnone).1
  generalize hall : tr ++ rest = all at h
  cases handlerRun_of_settles h with
  | rejected ht =>
    refine .inl (hbegin hall ?_)
    obtain rfl | ⟨id, r, rfl, _⟩ := ht <;> rfl
  | failed id e => exact .inl (hbegin hall rfl)
  | @delivered msg connection t _ hmsg _ _ hdeliver =>
    obtain ⟨rfl, _⟩ | ⟨tr', rfl, rfl⟩ := List.append_eq_cons_iff.mp hall
    · exact .inl rfl
    obtain hnone | ⟨ev, hev, hwrite⟩ := deliver_writes_once hdeliver
    · exact .inl hnone
    · exact .inr ⟨msg, connection, ev, hmsg, List.mem_cons_self .., hev, hwrite.cons⟩

/-- Polls and replays make no order upsert. -/
theorem PollRun.no_upserts {deps : CatchupDeps} {connectionId : String}
    {out : Except Thrown ConnectionCatchupOutcome} (h : PollRun deps connectionId tr out) :
    Only (fun ev => isOrderUpsert ev = false) tr := by
  have hpoll {t : List Ev} (h : Only PollCall t) : Only (fun ev => isOrderUpsert ev = false) t :=
    h.mono fun ev hev => by cases hev <;> rfl
  cases h with
  | idle hidle => exact hpoll hidle
  | @listed _ t _ _ _ _ _ _ _ _ hpre hsettles hpost =>
    have hpage : Only (fun ev => isOrderUpsert ev = false) t :=
      Only.mono (enqueueMissing_calls _ _ _ _ _ _ hsettles) fun ev hev => by cases hev <;> rfl
    exact (hpoll hpre).append (.cons rfl (hpage.append (hpoll hpost)))

theorem ReplayRun.no_upserts {req : ReplayRequest} (h : ReplayRun req tr) :
    Only (fun ev => isOrderUpsert ev = false) tr := by
  have hcalls {t : List Ev} (h : Only (ReplayCall req) t) :
      Only (fun ev => isOrderUpsert ev = false) t := h.mono fun ev hev => by cases hev <;> rfl
  cases h with
  | kept h => exact hcalls h
  | dropped _ h => exact .cons rfl (.cons rfl (.cons rfl (hcalls h)))

/-! ## Any number of threads -/

section Threads

variable {thread : Thread}

/-- What a thread did so far has no order upsert, or one, after a new claim. -/
theorem Thread.writes_once (h : Partial thread.program.run tr) :
    orderUpserts tr = [] ∨ ∃ d message ev, thread = .runs (d.handling message) ∧
      parseOrderWebhookMessage message = .ok d.msg ∧
      connectionFound d.deps d.msg.connectionId (.ok (some d.connection)) ∈ tr ∧
      orderUpserts tr = [ev] ∧ ClaimedWrite d ev tr := by
  have hquiet {rest : List Ev} (hall : Only (fun ev => isOrderUpsert ev = false) (tr ++ rest)) :
      orderUpserts tr = [] := by
    refine List.filter_eq_nil_iff.mpr fun ev hev => ?_
    simp [hall ev (List.mem_append_left _ hev)]
  cases thread with
  | deletes parts =>
    obtain rfl | ⟨r, rfl⟩ := Thread.deletes_calls h <;> exact .inl rfl
  | runs a =>
    obtain ⟨rest, res, hsettles⟩ := Thread.runs_settles h
    cases a with
    | handle deps message attemptCtx =>
      obtain hnone | ⟨msg, connection, ev, hmsg, hfound, hev, hwrite⟩ :=
        handle_writes_once hsettles
      · exact .inl hnone
      · exact .inr ⟨⟨deps, connection, msg, attemptCtx⟩, message, ev, rfl, hmsg, hfound, hev,
          hwrite⟩
    | poll deps config connectionId =>
      exact .inl (hquiet (pollOneConnection_runs hsettles).no_upserts)
    | replay req => exact .inl (hquiet (requestReplay_runs hsettles).no_upserts)

/-- An order upsert of a thread on `key` is paid for by a new claim of the same thread. -/
theorem Thread.upserts_le_claims (h : Partial thread.program.run tr) (hon : thread.On key)
    (hfound : ∀ deps id c, connectionFound deps id (.ok (some c)) ∈ tr → c.connectionId = id) :
    tr.countP (fun ev => isOrderUpsert ev = true) ≤ tr.countP (fun ev => claims key ev = true) := by
  simp only [Bool.decide_eq_true, List.countP_eq_length_filter]
  obtain hnone | ⟨d, message, ev, rfl, hmsg, hconn, hev, _, _, claim, _, before, after, _, rfl,
    hclaim, houtcome, _⟩ := Thread.writes_once h
  · have hzero : (tr.filter fun ev => isOrderUpsert ev).length = 0 :=
      List.length_eq_zero_iff.mpr hnone
    omega
  · have hone : ((before ++ ev :: after).filter fun ev => isOrderUpsert ev).length = 1 := by
      change (orderUpserts _).length = 1
      rw [hev, List.length_singleton]
    have hkey : dedupKey d.parts = .ok key := by
      have hparts := hon d.msg hmsg
      rwa [← hfound _ _ _ hconn] at hparts
    have hmem : claimedBy d (.ok claim) ∈ (before ++ ev :: after).filter fun ev => claims key ev :=
      List.mem_filter.mpr ⟨List.mem_append_left _ hclaim, by
        simp [claims, houtcome, hkey, Delivery.claimInput, Except.toOption]⟩
    have hpos := List.length_pos_of_mem hmem
    omega

end Threads

/-! ## The row -/

/-- Whether there is a row of `key`, as a number. -/
def World.rowCount (w : World) (key : String) : ℕ := if w.xref key = none then 0 else 1

theorem World.rowCount_le_one (w : World) (key : String) : w.rowCount key ≤ 1 := by
  unfold World.rowCount
  split <;> omega

theorem claims_eq_true {ev : Ev} (h : claims key ev = true) : ∃ input res,
    ev = answered (.claim input) (.ok res) ∧ res.outcome = .claimed ∧
      dedupKey input.parts = .ok key := by
  unfold claims at h
  split at h
  · next input res =>
    simp only [decide_eq_true_eq] at h
    exact ⟨input, res, rfl, h.1, toOption_eq_some h.2⟩
  · cases h

/-- Any change but a deletion that removes the row keeps a row that is there. -/
theorem rowCount_le_of_not_removes {ev : Ev} (h : World.XrefChange w.xref ev w'.xref)
    (hremoves : removes key ev = false) : w.rowCount key ≤ w'.rowCount key := by
  have hput {k : String} {row : XrefRow} (hxref : w'.xref = w.xref.put k row) :
      w.rowCount key ≤ w'.rowCount key := by
    unfold World.rowCount
    by_cases hrow : w.xref key = none
    · simp [hrow]
    · rw [if_neg hrow, if_neg (hxref ▸ World.put_ne_none hrow)]
  generalize hrows' : w'.xref = rows' at h
  cases h with
  | same => simp [World.rowCount, hrows']
  | claimed => exact hput hrows'
  | synced => exact hput hrows'
  | failed => exact hput hrows'
  | ignored => exact hput hrows'
  | @deleted parts k hkey =>
    unfold World.rowCount
    by_cases hk : key = k
    · subst hk
      cases hrow : w.xref key with
      | none => simp
      | some row => simp [removes, hkey, hrow, Except.toOption] at hremoves
    · rw [hrows', XrefRows.drop_of_ne hk]

/-- A new claim adds a row, and only a deletion that removes it takes it away. -/
theorem World.Step.rowCount_le (ev : Ev) (w w' : World) (h : Step ev.1 w ev.2 w') :
    (if claims key ev = true then 1 else 0) + w.rowCount key ≤
      (if removes key ev = true then 1 else 0) + w'.rowCount key := by
  by_cases hclaims : claims key ev = true
  · obtain ⟨input, res, rfl, houtcome, hkey⟩ := claims_eq_true hclaims
    obtain ⟨key', hkey', ⟨row, _, rfl, _⟩ | ⟨habsent, _, rfl⟩⟩ := h.claim_ok
    · exact absurd houtcome row.claimOutcome_ne_claimed
    · obtain rfl : key' = key := Except.ok.inj (hkey'.symm.trans hkey)
      simp [hclaims, rowCount, habsent]
  · rw [if_neg hclaims]
    by_cases hremoves : removes key ev = true
    · have hle := w.rowCount_le_one key
      rw [if_pos hremoves]
      omega
    · have hle := rowCount_le_of_not_removes h.xrefChange (eq_false_of_ne_true hremoves)
      rw [if_neg hremoves]
      omega

section Interleavings

variable {ι : Type} [DecidableEq ι] {threads : ι → Thread} {log : List (ι × Ev)}

/-- However threads on `key` interleave and whatever fails, from an absent row there is at
most one order upsert more than deletions that removed the row, and each order upsert comes
from a handling that made a new claim and fetched an eligible order itself. -/
theorem order_written_at_most_once (h : World.Interleaves threads w log w')
    (hon : ∀ i, (threads i).On key) (habsent : w.xref key = none) :
    (log.map Prod.snd).countP isOrderUpsert ≤ 1 + (log.map Prod.snd).countP (removes key) ∧
      ∀ i ev, (i, ev) ∈ log → isOrderUpsert ev = true → ∃ d message,
        threads i = .runs (d.handling message) ∧ ClaimedWrite d ev (callsOf i log) := by
  constructor
  · have hfound : ∀ i deps id c, connectionFound deps id (.ok (some c)) ∈ callsOf i log →
        c.connectionId = id := by
      intro i deps id c hmem
      have hev : connectionFound deps id (.ok (some c)) ∈ log.map Prod.snd :=
        List.mem_map.mpr ⟨_, mem_of_mem_callsOf hmem, rfl⟩
      obtain ⟨v, v', hstep⟩ := h.steps.exists_step hev
      obtain ⟨hfind, _⟩ := World.Step.findConnection_ok hstep
      have hsome := List.find?_some hfind.symm
      simp only [Bool.and_eq_true, decide_eq_true_eq] at hsome
      exact hsome.2
    have hclaims : (log.map Prod.snd).countP isOrderUpsert ≤
        (log.map Prod.snd).countP (claims key) := by
      simpa using countP_le_of_callsOf fun i =>
        Thread.upserts_le_claims (h.local_ i) (hon i) (hfound i)
    have hpotential : (log.map Prod.snd).countP (claims key) + w.rowCount key ≤
        (log.map Prod.snd).countP (removes key) + w'.rowCount key := by
      simpa using h.steps.potential World.Step.rowCount_le
    have hzero : w.rowCount key = 0 := by simp [World.rowCount, habsent]
    have hone := w'.rowCount_le_one key
    omega
  · intro i ev hmem hupsert
    have hev : ev ∈ orderUpserts (callsOf i log) :=
      List.mem_filter.mpr ⟨mem_callsOf hmem, hupsert⟩
    obtain hnone | ⟨d, message, ev', hthread, _, _, hsingle, hwrite⟩ :=
      Thread.writes_once (h.local_ i)
    · rw [hnone] at hev
      cases hev
    · rw [hsingle] at hev
      obtain rfl := List.mem_singleton.mp hev
      exact ⟨d, message, hthread, hwrite⟩

end Interleavings

/-! ## A tight interleaving -/

namespace Shop

theorem creation_on : (Thread.runs creation).On Shop.key := by
  intro msg hmsg
  rw [parseOrderWebhookMessage_toJs (message_wellFormed none (by decide))] at hmsg
  obtain rfl := Except.ok.inj hmsg
  have hgid : (message none "orders/create").orderGid = order.id := rfl
  exact dedupKey_parts hgid

/-- Two deliveries of the creation of the order, and a deletion of its row. -/
def overlapping : Fin 3 → Thread
  | 0 | 1 => .runs creation
  | 2 => .deletes (delivery (message none "orders/create")).parts

/-- Both deliveries look up the connection; the row is deleted between their claims. -/
def turns : List (Fin 3) := [0, 1, 0, 2, 1] ++ (List.replicate 20 [0, 1]).flatten

end Shop

/-- Two order upserts and one row removed: the bound is reached. -/
theorem order_written_at_most_once_shop :
    let log := (Shop.up.interleave Shop.overlapping Shop.turns Shop.world).1
    ((log.map Prod.snd).countP isOrderUpsert = 2 ∧
        (log.map Prod.snd).countP (removes Shop.key) = 1) ∧
      (log.map Prod.snd).countP isOrderUpsert ≤
          1 + (log.map Prod.snd).countP (removes Shop.key) ∧
        ∀ i ev, (i, ev) ∈ log → isOrderUpsert ev = true → ∃ d message,
          Shop.overlapping i = .runs (d.handling message) ∧
            ClaimedWrite d ev (callsOf i log) := by
  refine ⟨by decide +kernel, order_written_at_most_once
    (Shop.up.interleaves Shop.overlapping Shop.turns Shop.world) (fun i => ?_) rfl⟩
  match i with
  | 0 | 1 => exact Shop.creation_on
  | 2 => trivial

end DpIntegrator
