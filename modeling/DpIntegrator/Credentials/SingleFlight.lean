import DpIntegrator.Effects.Promises
import DpIntegrator.Shopify.HttpGateway

/-!
# Token exchanges in flight

The calls of `getAccessToken` of a process, cut at their awaits. A call is served from the cache, or
awaits the promise of the exchange that is in flight for its shop, or starts one. The promise of an
exchange is settled when the token endpoint has completed it or it has failed; the calls that await
it go on later, one job at a time, and the call that started the exchange is the first of them: it
keeps the token and clears the entry before any other call has seen the result.
-/

namespace DpIntegrator

open Effects

/-! ## Exchanges -/

/-- What an exchange is answered, and the time at its end. -/
def exchangeAnswers (now : ℤ) (response : Except Thrown (ShopifyResponse TokenBody)) :
    (o : ShopifyOp) → o.Resp
  | .exchange .. => response
  | .now => now
  | .resolveAccessToken _ => .ok ""
  | .post .. => .ok (.failed 0 "")

/-- The result of `fetchToken` when the endpoint responds, or its request fails. -/
def exchanged (creds : ShopifyTokenServiceCredentials) (now : ℤ)
    (response : Except Thrown (ShopifyResponse TokenBody)) : Except Thrown CachedToken :=
  ((fetchToken creds).run.eval (exchangeAnswers now response)).2

/-- The result of an exchange is that of `fetchToken`. -/
theorem settles_exchanged (creds : ShopifyTokenServiceCredentials) (now : ℤ)
    (response : Except Thrown (ShopifyResponse TokenBody)) :
    Settles (fetchToken creds) ((fetchToken creds).run.eval (exchangeAnswers now response)).1
      (exchanged creds now response) :=
  Prog.runs_eval (exchangeAnswers now response) (fetchToken creds).run

/-- `invalidate(shopDomain)`. -/
def TokenService.invalidate {ι : Type} (service : TokenService ι) (shopDomain : String) :
    TokenService ι :=
  { service with cache := Function.update service.cache shopDomain none }

namespace TokenService

variable {ι : Type} {service service' : TokenService ι} {shop : String} {now now' : ℤ}
  {token : CachedToken}

/-- A token of the cache has more than the buffer to live. -/
theorem fresh_of_cached (h : service.cached shop now = some token) :
    token.expiresAt - service.refreshBufferMs > now := by
  unfold cached at h
  split at h
  · split at h
    · next hfresh =>
      obtain rfl := Option.some.inj h
      exact hfresh
    · cases h
  · cases h

/-- A token that is not fresh does not become so. -/
theorem cached_of_le (h : service.cached shop now = none) (hle : now ≤ now') :
    service.cached shop now' = none := by
  unfold cached at h ⊢
  cases hcache : service.cache shop with
  | none => rfl
  | some token =>
    simp only [hcache] at h ⊢
    by_cases hfresh : token.expiresAt - service.refreshBufferMs > now
    · rw [if_pos hfresh] at h
      cases h
    · rw [if_neg (by omega)]

/-- What is served depends on the shop's place in the cache only. -/
theorem cached_congr (hcache : service'.cache shop = service.cache shop)
    (hbuffer : service'.refreshBufferMs = service.refreshBufferMs) :
    service'.cached shop now = service.cached shop now := by
  unfold cached
  rw [hcache, hbuffer]

theorem cached_of_cache (h : service.cache shop = none) : service.cached shop now = none := by
  unfold cached
  rw [h]

/-- The end of an exchange leaves what is served to other shops. -/
theorem cached_fetched {shop' : String} {result : Except (Option ℕ) CachedToken}
    (hne : shop ≠ shop') : (service.fetched shop' result).cached shop now = service.cached shop now := by
  apply cached_congr
  · cases result with
    | ok fresh => exact Function.update_of_ne hne ..
    | error status => rfl
  · rfl

end TokenService

/-! ## Calls -/

/-- A call of `getAccessToken`. -/
inductive TokenCall (ι : Type)
  /-- Not made yet. -/
  | idle
  /-- Returned a token of the cache. -/
  | served (token : CachedToken)
  /-- At the promise of an exchange, its own or another call's. -/
  | awaiting (exchange : ι)
  /-- Went on with the result of the exchange that it awaited. -/
  | resumed (exchange : ι) (result : Except Thrown CachedToken)

/-- The token service of a process with its calls. An exchange has the name of the call that started
it. -/
structure TokenProcess (ι : Type) where
  now : ℤ
  service : TokenService ι
  calls : ι → TokenCall ι
  promises : Promises ι ι (Except Thrown CachedToken)

inductive TokenStep (ι : Type)
  /-- A call is made. -/
  | call (i : ι)
  /-- The exchange of call `i` is completed, or fails. -/
  | exchanged (i : ι) (response : Except Thrown (ShopifyResponse TokenBody))
  /-- The first job is run: a call goes on. -/
  | resume
  | invalidate (shopDomain : String)
  /-- The clock advances. -/
  | tick (now : ℤ)

def TokenStep.isResume {ι : Type} : TokenStep ι → Bool
  | .resume => true
  | _ => false

namespace TokenProcess

variable {ι : Type} [DecidableEq ι] {creds : ι → ShopifyTokenServiceCredentials}

def start (refreshBufferMs now : ℤ) : TokenProcess ι where
  now := now
  service := { refreshBufferMs }
  calls _ := .idle
  promises := .empty

/-- Call `i` has started and its endpoint or promise has not settled it. -/
def Outstanding (p : TokenProcess ι) (i : ι) : Prop :=
  p.calls i = .awaiting i ∧ p.promises.result i = none

/-- Call `i` awaits the promise of an exchange. -/
def await (p : TokenProcess ι) (i exchange : ι) : TokenProcess ι :=
  { p with
    calls := Function.update p.calls i (.awaiting exchange)
    promises := p.promises.await i exchange }

variable (creds) in
/-- `getAccessToken`, up to its await. -/
def call (p : TokenProcess ι) (i : ι) : TokenProcess ι :=
  match p.service.getAccessToken (creds i).shopDomain p.now with
  | .cached token => { p with calls := Function.update p.calls i (.served token) }
  | .existing exchange => p.await i exchange
  | .fetch => { p.await i i with service := p.service.fetching (creds i).shopDomain i }

variable (creds) in
/-- `getAccessToken`, after its await. Only the call that started the exchange keeps the token and
clears the entry. -/
def goOn (p : TokenProcess ι) (i exchange : ι) (result : Except Thrown CachedToken) :
    TokenProcess ι :=
  { p with
    service :=
      if i = exchange then
        p.service.fetched (creds i).shopDomain (result.mapError fun _ => none)
      else p.service
    calls := Function.update p.calls i (.resumed exchange result) }

variable (creds) in
def step (p : TokenProcess ι) : TokenStep ι → Option (TokenProcess ι)
  | .call i =>
    match p.calls i with
    | .idle => some (p.call creds i)
    | _ => none
  | .exchanged i response =>
    match p.calls i, p.promises.result i with
    | .awaiting exchange, none =>
      if exchange = i then
        some { p with promises := p.promises.settle i (DpIntegrator.exchanged (creds i) p.now response) }
      else none
    | _, _ => none
  | .resume =>
    match p.promises.next with
    | some ((i, exchange), promises) =>
      (promises.result exchange).map fun result =>
        { p with promises }.goOn creds i exchange result
    | none => none
  | .invalidate shopDomain => some { p with service := p.service.invalidate shopDomain }
  | .tick now => if p.now ≤ now then some { p with now } else none

variable (creds) in
def run : List (TokenStep ι) → TokenProcess ι → Option (TokenProcess ι)
  | [], p => some p
  | s :: steps, p => (p.step creds s).bind (run steps)

/-- No exchange is in flight for a shop, and the cache serves it no token. -/
def Unserved (p : TokenProcess ι) (shop : String) : Prop :=
  p.service.inFlight shop = none ∧ p.service.cached shop p.now = none

/-! ## What a step does -/

/-- How a step goes, case by case. -/
inductive Taken (creds : ι → ShopifyTokenServiceCredentials) (p : TokenProcess ι) :
    TokenStep ι → TokenProcess ι → Prop
  | served {i : ι} {token : CachedToken} (hidle : p.calls i = .idle)
      (h : p.service.cached (creds i).shopDomain p.now = some token) :
      Taken creds p (.call i) { p with calls := Function.update p.calls i (.served token) }
  | joined {i exchange : ι} (hidle : p.calls i = .idle)
      (h : p.service.inFlight (creds i).shopDomain = some exchange) :
      Taken creds p (.call i) (p.await i exchange)
  | started {i : ι} (hidle : p.calls i = .idle)
      (hcached : p.service.cached (creds i).shopDomain p.now = none)
      (h : p.service.inFlight (creds i).shopDomain = none) :
      Taken creds p (.call i)
        { p.await i i with service := p.service.fetching (creds i).shopDomain i }
  | exchanged {i : ι} {response : Except Thrown (ShopifyResponse TokenBody)} (h : p.Outstanding i) :
      Taken creds p (.exchanged i response)
        { p with promises := p.promises.settle i (DpIntegrator.exchanged (creds i) p.now response) }
  | resumed {i exchange : ι} {promises : Promises ι ι (Except Thrown CachedToken)}
      {result : Except Thrown CachedToken} (h : p.promises.next = some ((i, exchange), promises))
      (hresult : p.promises.result exchange = some result) :
      Taken creds p .resume ({ p with promises }.goOn creds i exchange result)
  | invalidated {shopDomain : String} :
      Taken creds p (.invalidate shopDomain) { p with service := p.service.invalidate shopDomain }
  | ticked {now : ℤ} (h : p.now ≤ now) : Taken creds p (.tick now) { p with now }

variable {p q : TokenProcess ι} {s : TokenStep ι} {i e : ι}

/-- A call that is made is served, joins an exchange or starts one. -/
theorem call_cases (hidle : p.calls i = .idle) : Taken creds p (.call i) (p.call creds i) := by
  unfold call TokenService.getAccessToken
  cases hcached : p.service.cached (creds i).shopDomain p.now with
  | some token => exact .served hidle hcached
  | none =>
    cases hflight : p.service.inFlight (creds i).shopDomain with
    | some exchange => exact .joined hidle hflight
    | none => exact .started hidle hcached hflight

/-- Every step is one of the cases. -/
theorem step_cases (h : p.step creds s = some q) : Taken creds p s q := by
  cases s with
  | call i =>
    simp only [step] at h
    split at h
    · next hidle =>
      obtain rfl := Option.some.inj h
      exact call_cases hidle
    · cases h
  | exchanged i response =>
    simp only [step] at h
    split at h
    · next exchange hcall hresult =>
      split at h
      · next heq =>
        obtain rfl := Option.some.inj h
        rw [heq] at hcall
        exact .exchanged ⟨hcall, hresult⟩
      · cases h
    · cases h
  | resume =>
    simp only [step] at h
    split at h
    · next i exchange promises hnext =>
      obtain ⟨result, hresult, rfl⟩ := Option.map_eq_some_iff.mp h
      rw [(Promises.next_eq_some hnext).2.1] at hresult
      exact .resumed hnext hresult
    · cases h
  | invalidate shopDomain =>
    obtain rfl := Option.some.inj h
    exact .invalidated
  | tick now =>
    simp only [step] at h
    split at h
    · next hle =>
      obtain rfl := Option.some.inj h
      exact .ticked hle
    · cases h

/-! ## What a step leaves -/

/-- The result of an exchange stays. -/
theorem result_of_step {result : Except Thrown CachedToken}
    (hresult : p.promises.result e = some result) (hstep : p.step creds s = some q) :
    q.promises.result e = some result := by
  cases step_cases hstep with
  | served _ _ => exact hresult
  | joined _ _ =>
    change (Promises.await ..).result e = _
    rwa [Promises.result_await]
  | started _ _ _ =>
    change (Promises.await ..).result e = _
    rwa [Promises.result_await]
  | @exchanged j _ hout =>
    have hne : e ≠ j := by
      rintro rfl
      rw [hout.2] at hresult
      cases hresult
    rw [Promises.result_settle, Function.update_of_ne hne]
    exact hresult
  | @resumed _ _ promises _ hnext _ =>
    change promises.result e = some result
    rwa [(Promises.next_eq_some hnext).2.1]
  | invalidated => exact hresult
  | ticked _ => exact hresult

/-- The job of a waiting call moves to the front, one place for each job that is run. -/
theorem job_of_step {result : Except Thrown CachedToken} {k : ℕ}
    (hjob : p.promises.jobs[k]? = some (i, e)) (hresult : p.promises.result e = some result)
    (hstep : p.step creds s = some q) :
    if s.isResume then
      (k = 0 ∧ q.calls i = .resumed e result) ∨ ∃ k', k = k' + 1 ∧ q.promises.jobs[k']? = some (i, e)
    else q.promises.jobs[k]? = some (i, e) := by
  cases step_cases hstep with
  | served _ _ => exact hjob
  | joined _ _ => exact Promises.job_await hjob
  | started _ _ _ => exact Promises.job_await hjob
  | exchanged _ => exact Promises.job_settle hjob
  | @resumed j e' promises result' hnext hresult' =>
    obtain ⟨hjobs, _, _⟩ := Promises.next_eq_some hnext
    rw [hjobs] at hjob
    rw [TokenStep.isResume, if_pos rfl]
    cases k with
    | zero =>
      rw [List.getElem?_cons_zero, Option.some.injEq, Prod.mk.injEq] at hjob
      obtain ⟨rfl, rfl⟩ := hjob
      rw [hresult] at hresult'
      refine .inl ⟨rfl, ?_⟩
      rw [Option.some.inj hresult']
      exact Function.update_self ..
    | succ k =>
      rw [List.getElem?_cons_succ] at hjob
      exact .inr ⟨k, rfl, hjob⟩
  | invalidated => exact hjob
  | ticked _ => exact hjob

theorem buffer_of_step (hstep : p.step creds s = some q) :
    q.service.refreshBufferMs = p.service.refreshBufferMs := by
  cases step_cases hstep with
  | @resumed i e _ result _ _ =>
    change (if i = e then p.service.fetched (creds i).shopDomain (result.mapError fun _ => none)
      else p.service).refreshBufferMs = p.service.refreshBufferMs
    split <;> rfl
  | _ => rfl

/-- The buffer is that of the start. -/
theorem buffer_of_run {steps : List (TokenStep ι)} (hrun : run creds steps p = some q) :
    q.service.refreshBufferMs = p.service.refreshBufferMs := by
  induction steps generalizing p with
  | nil =>
    obtain rfl := Option.some.inj hrun
    rfl
  | cons s steps ih =>
    obtain ⟨p', hstep, hrest⟩ := Option.bind_eq_some_iff.mp hrun
    rw [ih hrest, buffer_of_step hstep]

/-- Where there are jobs, the first can be run. -/
theorem exists_resume (hjobs : p.promises.jobs ≠ []) :
    ∃ q, p.step creds .resume = some q ∧ q.promises.jobs = p.promises.jobs.tail := by
  cases hnext : p.promises.next with
  | none => exact absurd (Promises.next_eq_none hnext) hjobs
  | some taken =>
    obtain ⟨⟨i, e⟩, promises⟩ := taken
    obtain ⟨hcons, hresults, _⟩ := Promises.next_eq_some hnext
    obtain ⟨result, hresult⟩ := Option.isSome_iff_exists.mp (Promises.result_of_next hnext)
    refine ⟨{ p with promises }.goOn creds i e result, ?_, ?_⟩
    · simp only [step, hnext, hresults]
      rw [hresult]
      rfl
    · rw [hcons]
      rfl

/-- The jobs of the queue can be run, one after the other. -/
theorem exists_run_jobs {k : ℕ} (hlt : k < p.promises.jobs.length) :
    ∃ q, run creds (List.replicate (k + 1) .resume) p = some q := by
  induction k generalizing p with
  | zero =>
    obtain ⟨q, hstep, _⟩ := @exists_resume ι _ creds p (List.length_pos_iff.mp hlt)
    refine ⟨q, ?_⟩
    change (p.step creds .resume).bind _ = _
    rw [hstep]
    rfl
  | succ k ih =>
    obtain ⟨p', hstep, htail⟩ :=
      @exists_resume ι _ creds p (List.length_pos_iff.mp (by omega : 0 < p.promises.jobs.length))
    obtain ⟨q, hrun⟩ := ih (p := p') (by rw [htail, List.length_tail]; omega)
    refine ⟨q, ?_⟩
    change (p.step creds .resume).bind _ = _
    rw [hstep]
    exact hrun

/-! ## The order of the calls -/

variable (creds) in
/-- What holds of the calls, the entries and the promises between any two steps. -/
structure Consistent (p : TokenProcess ι) : Prop where
  awaiting_iff : ∀ i e, p.calls i = .awaiting e ↔ i ∈ p.promises.pending e
  nodup : ∀ e, (p.promises.pending e).Nodup
  /-- The call that started an exchange is the first that awaits it. -/
  first : ∀ e, e ∈ p.promises.pending e → (p.promises.pending e).head? = some e
  /-- An exchange was started by a call for the same shop, which still awaits it or went on. -/
  starter : ∀ i e, p.calls i = .awaiting e → (creds e).shopDomain = (creds i).shopDomain ∧
    (p.calls e = .awaiting e ∨ ∃ result, p.calls e = .resumed e result)
  inFlight_iff : ∀ shop e, p.service.inFlight shop = some e ↔
    (creds e).shopDomain = shop ∧ p.calls e = .awaiting e
  /-- While an exchange is in flight the cache serves its shop no token. -/
  unserved : ∀ shop e, p.service.inFlight shop = some e → p.service.cached shop p.now = none
  resumed : ∀ i e result, p.calls i = .resumed e result →
    p.promises.result e = some result ∧ p.calls e = .resumed e result
  settled : ∀ e result, p.promises.result e = some result →
    (p.calls e = .awaiting e ∨ ∃ result', p.calls e = .resumed e result') ∧
      ∃ now response, result = exchanged (creds e) now response

theorem consistent_start (refreshBufferMs now : ℤ) :
    Consistent creds (start refreshBufferMs now : TokenProcess ι) where
  awaiting_iff _ _ := ⟨nofun, nofun⟩
  nodup _ := List.nodup_nil
  first _ h := nomatch h
  starter _ _ h := nomatch h
  inFlight_iff _ _ := ⟨nofun, fun h => nomatch h.2⟩
  unserved _ _ h := nomatch h
  resumed _ _ _ h := nomatch h
  settled _ _ h := nomatch h

namespace Consistent

variable (h : p.Consistent creds)

include h

/-- A call that was not made awaits nothing. -/
theorem not_pending (hidle : p.calls i = .idle) (e : ι) : i ∉ p.promises.pending e := by
  intro hmem
  rw [← h.awaiting_iff, hidle] at hmem
  cases hmem

/-- Nobody awaits the exchange of a call that was not made. -/
theorem pending_of_idle (hidle : p.calls i = .idle) : p.promises.pending i = [] := by
  rw [List.eq_nil_iff_forall_not_mem]
  intro j hj
  rcases (h.starter j i ((h.awaiting_iff j i).mpr hj)).2 with hcall | ⟨result, hcall⟩
  all_goals
    rw [hidle] at hcall
    cases hcall

theorem result_of_idle (hidle : p.calls i = .idle) : p.promises.result i = none := by
  cases hresult : p.promises.result i with
  | none => rfl
  | some result =>
    rcases (h.settled i result hresult).1 with hcall | ⟨result', hcall⟩
    all_goals
      rw [hidle] at hcall
      cases hcall

/-- The exchange that is in flight for a shop has the entry. -/
theorem inFlight_of_awaiting (hcall : p.calls e = .awaiting e) :
    p.service.inFlight (creds e).shopDomain = some e :=
  (h.inFlight_iff _ e).mpr ⟨rfl, hcall⟩

end Consistent

/-- Where a call has changed, it is as it was changed. -/
theorem update_eq_iff {calls : ι → TokenCall ι} {call c : TokenCall ι} {j : ι}
    (hold : calls i ≠ c) : Function.update calls i call j = c ↔ calls j = c ∨ j = i ∧ call = c := by
  by_cases hj : j = i
  · subst hj
    rw [Function.update_self]
    exact ⟨fun heq => .inr ⟨rfl, heq⟩, fun heq => heq.elim (absurd · hold) And.right⟩
  · rw [Function.update_of_ne hj]
    exact ⟨.inl, fun heq => heq.elim id fun h => absurd h.1 hj⟩

namespace Consistent

variable (h : p.Consistent creds)

include h

/-- A call is served from the cache. -/
theorem served (hidle : p.calls i = .idle) (token : CachedToken) :
    Consistent creds { p with calls := Function.update p.calls i (.served token) } := by
  have hsame {c : TokenCall ι} (hc : c ≠ .idle) (hc' : c ≠ .served token) (j : ι) :
      Function.update p.calls i (.served token) j = c ↔ p.calls j = c := by
    rw [update_eq_iff (by rw [hidle]; exact hc.symm)]
    exact ⟨fun heq => heq.elim id fun h => absurd h.2.symm hc', .inl⟩
  have hawaiting (j e : ι) := hsame (c := .awaiting e) nofun nofun j
  have hresumed (j e : ι) (result : Except Thrown CachedToken) :=
    hsame (c := .resumed e result) nofun nofun j
  constructor
  · simpa only [hawaiting] using h.awaiting_iff
  · exact h.nodup
  · exact h.first
  · simpa only [hawaiting, hresumed] using h.starter
  · simpa only [hawaiting] using h.inFlight_iff
  · exact h.unserved
  · simpa only [hresumed] using h.resumed
  · simpa only [hawaiting, hresumed] using h.settled

/-- A call that was not made awaits an exchange that is in flight for its shop, or its own. -/
theorem await (service : TokenService ι) (hidle : p.calls i = .idle)
    (hexchange : e = i ∨ p.calls e = .awaiting e ∧ (creds e).shopDomain = (creds i).shopDomain)
    (hflight : ∀ shop e', service.inFlight shop = some e' ↔
      (creds e').shopDomain = shop ∧ (p.await i e).calls e' = .awaiting e')
    (hserved : ∀ shop e', service.inFlight shop = some e' → service.cached shop p.now = none) :
    Consistent creds { p.await i e with service } := by
  have hawaiting (j e' : ι) : Function.update p.calls i (.awaiting e) j = .awaiting e' ↔
      p.calls j = .awaiting e' ∨ j = i ∧ e = e' := by
    rw [update_eq_iff (by rw [hidle]; nofun), TokenCall.awaiting.injEq]
  have hresumed (j e' : ι) (result : Except Thrown CachedToken) :
      Function.update p.calls i (.awaiting e) j = .resumed e' result ↔
        p.calls j = .resumed e' result := by
    rw [update_eq_iff (by rw [hidle]; nofun)]
    exact ⟨fun heq => heq.elim id nofun, .inl⟩
  have hpending (e' : ι) : (p.promises.await i e).pending e' =
      if e' = e then p.promises.pending e ++ [i] else p.promises.pending e' := by
    by_cases heq : e' = e
    · rw [heq, if_pos rfl, Promises.pending_await_self]
    · rw [if_neg heq, Promises.pending_await_of_ne heq]
  constructor
  · intro j e'
    change Function.update p.calls i (.awaiting e) j = .awaiting e' ↔
      j ∈ (p.promises.await i e).pending e'
    rw [hawaiting, hpending, h.awaiting_iff]
    by_cases heq : e' = e
    · subst heq
      simp
    · simp [heq, Ne.symm heq]
  · intro e'
    change ((p.promises.await i e).pending e').Nodup
    rw [hpending]
    split
    · refine List.nodup_append.mpr ⟨h.nodup e, List.nodup_singleton i, ?_⟩
      intro j hj k hk heq
      rw [List.mem_singleton.mp hk] at heq
      rw [heq] at hj
      exact h.not_pending hidle e hj
    · exact h.nodup e'
  · intro e'
    change e' ∈ (p.promises.await i e).pending e' →
      ((p.promises.await i e).pending e').head? = some e'
    rw [hpending]
    split
    · next heq =>
      subst heq
      rcases hexchange with rfl | ⟨hcall, _⟩
      · rw [h.pending_of_idle hidle]
        exact fun _ => rfl
      · have hfirst := h.first e' ((h.awaiting_iff e' e').mp hcall)
        rw [List.head?_append, hfirst]
        exact fun _ => rfl
    · exact h.first e'
  · intro j e' hj
    change Function.update p.calls i (.awaiting e) j = .awaiting e' at hj
    change _ ∧ (Function.update p.calls i (.awaiting e) e' = .awaiting e' ∨
      ∃ result, Function.update p.calls i (.awaiting e) e' = .resumed e' result)
    simp only [hawaiting, hresumed] at hj ⊢
    rcases hj with hj | ⟨rfl, rfl⟩
    · obtain ⟨hshop, hstarter⟩ := h.starter j e' hj
      exact ⟨hshop, hstarter.imp_left .inl⟩
    · rcases hexchange with rfl | ⟨hcall, hshop⟩
      · exact ⟨rfl, .inl (.inr ⟨rfl, rfl⟩)⟩
      · exact ⟨hshop, .inl (.inl hcall)⟩
  · exact hflight
  · exact hserved
  · intro j e' result hj
    change Function.update p.calls i (.awaiting e) j = .resumed e' result at hj
    change (p.promises.await i e).result e' = some result ∧
      Function.update p.calls i (.awaiting e) e' = .resumed e' result
    rw [hresumed] at hj ⊢
    rw [Promises.result_await]
    exact h.resumed j e' result hj
  · intro e' result hresult
    change (p.promises.await i e).result e' = some result at hresult
    change (Function.update p.calls i (.awaiting e) e' = .awaiting e' ∨
      ∃ result, Function.update p.calls i (.awaiting e) e' = .resumed e' result) ∧ _
    rw [Promises.result_await] at hresult
    simp only [hawaiting, hresumed]
    obtain ⟨hmade, hexchanged⟩ := h.settled e' result hresult
    exact ⟨hmade.imp_left .inl, hexchanged⟩

/-- A call joins the exchange that is in flight. -/
theorem joined (hidle : p.calls i = .idle)
    (hflight : p.service.inFlight (creds i).shopDomain = some e) :
    Consistent creds (p.await i e) := by
  obtain ⟨hshop, hcall⟩ := (h.inFlight_iff _ e).mp hflight
  refine h.await p.service hidle (.inr ⟨hcall, hshop⟩) ?_ h.unserved
  intro shop e'
  rw [h.inFlight_iff]
  change _ ↔ _ ∧ Function.update p.calls i (.awaiting e) e' = .awaiting e'
  rw [update_eq_iff (by rw [hidle]; nofun), TokenCall.awaiting.injEq]
  constructor
  · exact fun ⟨hshop', hcall'⟩ => ⟨hshop', .inl hcall'⟩
  · rintro ⟨hshop', hcall' | ⟨rfl, rfl⟩⟩
    · exact ⟨hshop', hcall'⟩
    · exact ⟨hshop', hcall⟩

/-- A call starts an exchange. -/
theorem started (hidle : p.calls i = .idle)
    (hcached : p.service.cached (creds i).shopDomain p.now = none)
    (hflight : p.service.inFlight (creds i).shopDomain = none) :
    Consistent creds
      { p.await i i with service := p.service.fetching (creds i).shopDomain i } := by
  refine h.await (p.service.fetching (creds i).shopDomain i) hidle (.inl rfl) ?_ ?_
  · intro shop e'
    change Function.update p.service.inFlight (creds i).shopDomain (some i) shop = some e' ↔
      _ ∧ Function.update p.calls i (.awaiting i) e' = .awaiting e'
    rw [update_eq_iff (by rw [hidle]; nofun), TokenCall.awaiting.injEq]
    by_cases hshop : shop = (creds i).shopDomain
    · subst hshop
      rw [Function.update_self, Option.some.injEq]
      constructor
      · rintro rfl
        exact ⟨rfl, .inr ⟨rfl, rfl⟩⟩
      · rintro ⟨hshop, hcall | ⟨rfl, _⟩⟩
        · rw [← hshop, h.inFlight_of_awaiting hcall] at hflight
          cases hflight
        · rfl
    · rw [Function.update_of_ne hshop, h.inFlight_iff]
      constructor
      · exact fun ⟨hshop', hcall⟩ => ⟨hshop', .inl hcall⟩
      · rintro ⟨hshop', hcall | ⟨rfl, _⟩⟩
        · exact ⟨hshop', hcall⟩
        · exact absurd hshop'.symm hshop
  · intro shop e' hflight'
    change p.service.cached shop p.now = none
    by_cases hshop : shop = (creds i).shopDomain
    · rw [hshop]
      exact hcached
    · apply h.unserved shop e'
      change Function.update p.service.inFlight (creds i).shopDomain (some i) shop = _ at hflight'
      rwa [Function.update_of_ne hshop] at hflight'

/-- The exchange of a call is settled. -/
theorem exchanged {response : Except Thrown (ShopifyResponse TokenBody)} (hout : p.Outstanding i) :
    Consistent creds
      { p with promises := p.promises.settle i (DpIntegrator.exchanged (creds i) p.now response) } := by
  obtain ⟨hcall, hnone⟩ := hout
  have hpending (e' : ι) := Promises.pending_settle (q := e')
    (r := DpIntegrator.exchanged (creds i) p.now response) hnone
  constructor
  · simpa only [hpending] using h.awaiting_iff
  · simpa only [hpending] using h.nodup
  · simpa only [hpending] using h.first
  · exact h.starter
  · exact h.inFlight_iff
  · exact h.unserved
  · intro j e' result hj
    obtain ⟨hresult, hstarter⟩ := h.resumed j e' result hj
    refine ⟨?_, hstarter⟩
    have hne : e' ≠ i := by
      rintro rfl
      rw [hnone] at hresult
      cases hresult
    rw [Promises.result_settle, Function.update_of_ne hne, hresult]
  · intro e' result hresult
    rw [Promises.result_settle] at hresult
    by_cases heq : e' = i
    · subst heq
      rw [Function.update_self] at hresult
      exact ⟨.inl hcall, p.now, response, (Option.some.inj hresult).symm⟩
    · rw [Function.update_of_ne heq] at hresult
      exact h.settled e' result hresult

/-- A call goes on before its exchange's starter only where it is the starter itself. -/
theorem starter_resumed {promises : Promises ι ι (Except Thrown CachedToken)}
    {result : Except Thrown CachedToken} (hnext : p.promises.next = some ((i, e), promises))
    (hresult : p.promises.result e = some result) (hne : i ≠ e) :
    p.calls e = .resumed e result := by
  have hpending := Promises.pending_next_self hnext
  have hcall : p.calls i = .awaiting e := by
    rw [h.awaiting_iff, hpending]
    exact List.mem_cons_self
  rcases (h.starter i e hcall).2 with hstarter | ⟨result', hstarter⟩
  · have hfirst := h.first e ((h.awaiting_iff e e).mp hstarter)
    rw [hpending] at hfirst
    exact absurd (Option.some.inj hfirst) hne
  · have hsame := (h.resumed e e result' hstarter).1
    rw [hresult] at hsame
    rw [hstarter, Option.some.inj hsame]

/-- The first job is run. -/
theorem goOn {promises : Promises ι ι (Except Thrown CachedToken)}
    {result : Except Thrown CachedToken} (hnext : p.promises.next = some ((i, e), promises))
    (hresult : p.promises.result e = some result) :
    Consistent creds ({ p with promises }.goOn creds i e result) := by
  have hpending := Promises.pending_next_self hnext
  have hothers (e' : ι) (hne : e' ≠ e) := Promises.pending_next_of_ne hnext hne
  obtain ⟨_, hresults, _⟩ := Promises.next_eq_some hnext
  have hnodup := h.nodup e
  rw [hpending] at hnodup
  obtain ⟨hnotMem, htail⟩ := List.nodup_cons.mp hnodup
  have hcall : p.calls i = .awaiting e := by
    rw [h.awaiting_iff, hpending]
    exact List.mem_cons_self
  have hawaiting (j e' : ι) : Function.update p.calls i (.resumed e result) j = .awaiting e' ↔
      p.calls j = .awaiting e' ∧ j ≠ i := by
    by_cases hj : j = i
    · subst hj
      rw [Function.update_self]
      exact ⟨nofun, fun heq => absurd rfl heq.2⟩
    · rw [Function.update_of_ne hj]
      exact ⟨fun heq => ⟨heq, hj⟩, And.left⟩
  have hresumed (j e' : ι) (result' : Except Thrown CachedToken) :
      Function.update p.calls i (.resumed e result) j = .resumed e' result' ↔
        p.calls j = .resumed e' result' ∨ j = i ∧ e = e' ∧ result = result' := by
    rw [update_eq_iff (by rw [hcall]; nofun), TokenCall.resumed.injEq]
  have hmade (e' : ι) (hmade : p.calls e' = .awaiting e' ∨ ∃ r, p.calls e' = .resumed e' r) :
      (p.calls e' = .awaiting e' ∧ e' ≠ i) ∨
        ∃ r, p.calls e' = .resumed e' r ∨ e' = i ∧ e = e' ∧ result = r := by
    rcases hmade with hawait | ⟨r, hres⟩
    · by_cases heq : e' = i
      · subst heq
        rw [hcall] at hawait
        exact .inr ⟨result, .inr ⟨rfl, TokenCall.awaiting.inj hawait, rfl⟩⟩
      · exact .inl ⟨hawait, heq⟩
    · exact .inr ⟨r, .inl hres⟩
  constructor
  · intro j e'
    change Function.update p.calls i (.resumed e result) j = .awaiting e' ↔
      j ∈ promises.pending e'
    rw [hawaiting, h.awaiting_iff]
    by_cases heq : e' = e
    · subst heq
      rw [hpending, List.mem_cons]
      constructor
      · rintro ⟨rfl | hmem, hj⟩
        · exact absurd rfl hj
        · exact hmem
      · intro hmem
        refine ⟨.inr hmem, ?_⟩
        rintro rfl
        exact hnotMem hmem
    · rw [hothers e' heq]
      refine ⟨And.left, fun hmem => ⟨hmem, ?_⟩⟩
      rintro rfl
      rw [← h.awaiting_iff, hcall] at hmem
      exact heq (TokenCall.awaiting.inj hmem).symm
  · intro e'
    change (promises.pending e').Nodup
    by_cases heq : e' = e
    · rw [heq]
      exact htail
    · rw [hothers e' heq]
      exact h.nodup e'
  · intro e'
    change e' ∈ promises.pending e' → (promises.pending e').head? = some e'
    by_cases heq : e' = e
    · subst heq
      intro hmem
      have hfirst := h.first e' (by rw [hpending]; exact List.mem_cons_of_mem i hmem)
      rw [hpending] at hfirst
      rw [Option.some.inj hfirst] at hnotMem
      exact absurd hmem hnotMem
    · rw [hothers e' heq]
      exact h.first e'
  · intro j e' hj
    change Function.update p.calls i (.resumed e result) j = .awaiting e' at hj
    change _ ∧ (Function.update p.calls i (.resumed e result) e' = .awaiting e' ∨
      ∃ r, Function.update p.calls i (.resumed e result) e' = .resumed e' r)
    simp only [hawaiting, hresumed] at hj ⊢
    obtain ⟨hshop, hstarter⟩ := h.starter j e' hj.1
    exact ⟨hshop, hmade e' hstarter⟩
  · intro shop e'
    change (if i = e then p.service.fetched (creds i).shopDomain (result.mapError fun _ => none)
      else p.service).inFlight shop = some e' ↔
      _ ∧ Function.update p.calls i (.resumed e result) e' = .awaiting e'
    rw [hawaiting]
    by_cases heq : i = e
    · subst heq
      rw [if_pos rfl]
      change Function.update p.service.inFlight (creds i).shopDomain none shop = some e' ↔ _
      have hentry := h.inFlight_of_awaiting hcall
      by_cases hshop : shop = (creds i).shopDomain
      · subst hshop
        rw [Function.update_self]
        refine ⟨nofun, fun ⟨hshop', hcall', hne⟩ => ?_⟩
        rw [← hshop', h.inFlight_of_awaiting hcall'] at hentry
        exact absurd (Option.some.inj hentry) hne
      · rw [Function.update_of_ne hshop, h.inFlight_iff]
        refine ⟨fun ⟨hshop', hcall'⟩ => ⟨hshop', hcall', ?_⟩, fun ⟨hshop', hcall', _⟩ =>
          ⟨hshop', hcall'⟩⟩
        rintro rfl
        exact hshop hshop'.symm
    · rw [if_neg heq, h.inFlight_iff]
      refine ⟨fun ⟨hshop', hcall'⟩ => ⟨hshop', hcall', ?_⟩, fun ⟨hshop', hcall', _⟩ =>
        ⟨hshop', hcall'⟩⟩
      rintro rfl
      rw [hcall] at hcall'
      exact heq (TokenCall.awaiting.inj hcall').symm
  · intro shop e'
    change (if i = e then p.service.fetched (creds i).shopDomain (result.mapError fun _ => none)
      else p.service).inFlight shop = some e' →
      (if i = e then p.service.fetched (creds i).shopDomain (result.mapError fun _ => none)
        else p.service).cached shop p.now = none
    split
    · intro hflight
      change Function.update p.service.inFlight (creds i).shopDomain none shop = some e' at hflight
      by_cases hshop : shop = (creds i).shopDomain
      · rw [hshop, Function.update_self] at hflight
        cases hflight
      · rw [Function.update_of_ne hshop] at hflight
        rw [TokenService.cached_fetched hshop]
        exact h.unserved shop e' hflight
    · exact h.unserved shop e'
  · intro j e' result' hj
    change Function.update p.calls i (.resumed e result) j = .resumed e' result' at hj
    change promises.result e' = some result' ∧
      Function.update p.calls i (.resumed e result) e' = .resumed e' result'
    rw [hresumed] at hj ⊢
    rw [hresults]
    rcases hj with hj | ⟨rfl, rfl, rfl⟩
    · obtain ⟨hsome, hstarter⟩ := h.resumed j e' result' hj
      exact ⟨hsome, .inl hstarter⟩
    · refine ⟨hresult, ?_⟩
      by_cases heq : j = e
      · exact .inr ⟨heq.symm, rfl, rfl⟩
      · exact .inl (h.starter_resumed hnext hresult heq)
  · intro e' result' hresult'
    change promises.result e' = some result' at hresult'
    change (Function.update p.calls i (.resumed e result) e' = .awaiting e' ∨
      ∃ r, Function.update p.calls i (.resumed e result) e' = .resumed e' r) ∧ _
    simp only [hawaiting, hresumed]
    rw [hresults] at hresult'
    obtain ⟨hstarted, hexchanged⟩ := h.settled e' result' hresult'
    exact ⟨hmade e' hstarted, hexchanged⟩

theorem invalidated (shopDomain : String) :
    Consistent creds { p with service := p.service.invalidate shopDomain } := by
  refine { h with unserved := fun shop e' hflight => ?_ }
  by_cases hshop : shop = shopDomain
  · rw [hshop]
    exact TokenService.cached_of_cache (Function.update_self ..)
  · change (p.service.invalidate shopDomain).cached shop p.now = none
    have hcache : (p.service.invalidate shopDomain).cache shop = p.service.cache shop :=
      Function.update_of_ne hshop ..
    rw [TokenService.cached_congr hcache rfl]
    exact h.unserved shop e' hflight

theorem ticked {now : ℤ} (hle : p.now ≤ now) : Consistent creds { p with now } :=
  { h with unserved := fun shop e' hflight =>
      TokenService.cached_of_le (h.unserved shop e' hflight) hle }

/-- Every step keeps the calls, the entries and the promises consistent. -/
theorem of_step (hstep : p.step creds s = some q) : q.Consistent creds := by
  cases step_cases hstep with
  | served hidle _ => exact h.served hidle _
  | joined hidle hflight => exact h.joined hidle hflight
  | started hidle hcached hflight => exact h.started hidle hcached hflight
  | exchanged hout => exact h.exchanged hout
  | resumed hnext hresult => exact h.goOn hnext hresult
  | invalidated => exact h.invalidated _
  | ticked hle => exact h.ticked hle

theorem of_run {steps : List (TokenStep ι)} (hrun : run creds steps p = some q) :
    q.Consistent creds := by
  induction steps generalizing p with
  | nil =>
    obtain rfl := Option.some.inj hrun
    exact h
  | cons s steps ih =>
    obtain ⟨p', hstep, hrest⟩ := Option.bind_eq_some_iff.mp hrun
    exact ih (h.of_step hstep) hrest

/-! ## Waiting calls -/

/-- A call that has gone on stays so. -/
theorem resumed_of_step {result : Except Thrown CachedToken} (hcall : p.calls i = .resumed e result)
    (hstep : p.step creds s = some q) : q.calls i = .resumed e result := by
  have hkeep {j : ι} {call : TokenCall ι} (hj : p.calls j ≠ .resumed e result) :
      Function.update p.calls j call i = .resumed e result := by
    have hne : i ≠ j := by
      rintro rfl
      exact hj hcall
    rwa [Function.update_of_ne hne]
  cases step_cases hstep with
  | served hidle _ => exact hkeep (by rw [hidle]; nofun)
  | joined hidle _ => exact hkeep (by rw [hidle]; nofun)
  | started hidle _ _ => exact hkeep (by rw [hidle]; nofun)
  | exchanged _ => exact hcall
  | @resumed j e' promises result' hnext _ =>
    have hmem : j ∈ p.promises.pending e' := by
      rw [Promises.pending_next_self hnext]
      exact List.mem_cons_self
    rw [← h.awaiting_iff] at hmem
    exact hkeep (by rw [hmem]; nofun)
  | invalidated => exact hcall
  | ticked _ => exact hcall

theorem resumed_of_run {result : Except Thrown CachedToken} {steps : List (TokenStep ι)}
    (hcall : p.calls i = .resumed e result) (hrun : run creds steps p = some q) :
    q.calls i = .resumed e result := by
  induction steps generalizing p with
  | nil =>
    obtain rfl := Option.some.inj hrun
    exact hcall
  | cons s steps ih =>
    obtain ⟨p', hstep, hrest⟩ := Option.bind_eq_some_iff.mp hrun
    exact ih (h.of_step hstep) (h.resumed_of_step hcall hstep) hrest

/-- A call that awaits an exchange goes on with its result or awaits it still. -/
theorem awaiting_of_step (hcall : p.calls i = .awaiting e) (hstep : p.step creds s = some q) :
    q.calls i = .awaiting e ∨ ∃ result, q.calls i = .resumed e result := by
  have hkeep {j : ι} {call : TokenCall ι} (hidle : p.calls j = .idle) :
      Function.update p.calls j call i = .awaiting e := by
    have hne : i ≠ j := by
      rintro rfl
      rw [hidle] at hcall
      cases hcall
    rwa [Function.update_of_ne hne]
  cases step_cases hstep with
  | served hidle _ => exact .inl (hkeep hidle)
  | joined hidle _ => exact .inl (hkeep hidle)
  | started hidle _ _ => exact .inl (hkeep hidle)
  | exchanged _ => exact .inl hcall
  | @resumed j e' promises result hnext _ =>
    change Function.update p.calls j (.resumed e' result) i = _ ∨
      ∃ r, Function.update p.calls j (.resumed e' result) i = _
    by_cases hij : i = j
    · have hmem : j ∈ p.promises.pending e' := by
        rw [Promises.pending_next_self hnext]
        exact List.mem_cons_self
      rw [← h.awaiting_iff, ← hij, hcall] at hmem
      rw [hij, Function.update_self, TokenCall.awaiting.inj hmem]
      exact .inr ⟨result, rfl⟩
    · rw [Function.update_of_ne hij]
      exact .inl hcall
  | invalidated => exact .inl hcall
  | ticked _ => exact .inl hcall

theorem awaiting_of_run {steps : List (TokenStep ι)} (hcall : p.calls i = .awaiting e)
    (hrun : run creds steps p = some q) :
    q.calls i = .awaiting e ∨ ∃ result, q.calls i = .resumed e result := by
  induction steps generalizing p with
  | nil =>
    obtain rfl := Option.some.inj hrun
    exact .inl hcall
  | cons s steps ih =>
    obtain ⟨p', hstep, hrest⟩ := Option.bind_eq_some_iff.mp hrun
    rcases h.awaiting_of_step hcall hstep with hcall' | ⟨result, hcall'⟩
    · exact ih (h.of_step hstep) hcall' hrest
    · exact .inr ⟨result, (h.of_step hstep).resumed_of_run hcall' hrest⟩

/-- A waiting call whose exchange is settled has gone on when the jobs up to its own were run. -/
theorem resumed_of_jobs {result : Except Thrown CachedToken} {k : ℕ} {steps : List (TokenStep ι)}
    (hjob : p.promises.jobs[k]? = some (i, e)) (hresult : p.promises.result e = some result)
    (hrun : run creds steps p = some q) (hlt : k < steps.countP TokenStep.isResume) :
    q.calls i = .resumed e result := by
  induction steps generalizing p k with
  | nil => exact absurd hlt (by simp)
  | cons s steps ih =>
    obtain ⟨p', hstep, hrest⟩ := Option.bind_eq_some_iff.mp hrun
    have hplace := job_of_step hjob hresult hstep
    have hresult' := result_of_step hresult hstep
    cases hs : s.isResume with
    | false =>
      rw [hs, if_neg Bool.false_ne_true] at hplace
      rw [List.countP_cons_of_neg (by rw [hs]; exact Bool.false_ne_true)] at hlt
      exact ih (h.of_step hstep) hplace hresult' hrest hlt
    | true =>
      rw [hs, if_pos rfl] at hplace
      rw [List.countP_cons_of_pos hs] at hlt
      rcases hplace with ⟨_, hcall⟩ | ⟨k', rfl, hplace⟩
      · exact (h.of_step hstep).resumed_of_run hcall hrest
      · exact ih (h.of_step hstep) hplace hresult' hrest (by omega)

/-! ## After a failure -/

/-- A step that is no call for a shop leaves it without exchange and without token. -/
theorem unserved_of_step {shop : String} (hunserved : p.Unserved shop)
    (hcalls : ∀ i, s = .call i → (creds i).shopDomain ≠ shop) (hstep : p.step creds s = some q) :
    q.Unserved shop := by
  obtain ⟨hflight, hcached⟩ := hunserved
  cases step_cases hstep with
  | served _ _ => exact ⟨hflight, hcached⟩
  | joined _ _ => exact ⟨hflight, hcached⟩
  | @started i _ _ _ =>
    have hne := hcalls i rfl
    refine ⟨?_, hcached⟩
    change Function.update p.service.inFlight (creds i).shopDomain (some i) shop = none
    rwa [Function.update_of_ne hne.symm]
  | exchanged _ => exact ⟨hflight, hcached⟩
  | @resumed i e promises result hnext _ =>
    change (if i = e then p.service.fetched (creds i).shopDomain (result.mapError fun _ => none)
      else p.service).inFlight shop = none ∧
      (if i = e then p.service.fetched (creds i).shopDomain (result.mapError fun _ => none)
        else p.service).cached shop p.now = none
    split
    · next heq =>
      subst heq
      have hcall : p.calls i = .awaiting i := by
        rw [h.awaiting_iff, Promises.pending_next_self hnext]
        exact List.mem_cons_self
      have hne : shop ≠ (creds i).shopDomain := by
        rintro rfl
        rw [h.inFlight_of_awaiting hcall] at hflight
        cases hflight
      rw [TokenService.cached_fetched hne]
      refine ⟨?_, hcached⟩
      change Function.update p.service.inFlight (creds i).shopDomain none shop = none
      rwa [Function.update_of_ne hne]
    · exact ⟨hflight, hcached⟩
  | @invalidated shopDomain =>
    refine ⟨hflight, ?_⟩
    change (p.service.invalidate shopDomain).cached shop p.now = none
    by_cases hshop : shop = shopDomain
    · rw [hshop]
      exact TokenService.cached_of_cache (Function.update_self ..)
    · have hcache : (p.service.invalidate shopDomain).cache shop = p.service.cache shop :=
        Function.update_of_ne hshop ..
      rwa [TokenService.cached_congr hcache rfl]
  | ticked hle => exact ⟨hflight, TokenService.cached_of_le hcached hle⟩

theorem unserved_of_run {shop : String} {steps : List (TokenStep ι)} (hunserved : p.Unserved shop)
    (hcalls : ∀ i, .call i ∈ steps → (creds i).shopDomain ≠ shop)
    (hrun : run creds steps p = some q) : q.Unserved shop := by
  induction steps generalizing p with
  | nil =>
    obtain rfl := Option.some.inj hrun
    exact hunserved
  | cons s steps ih =>
    obtain ⟨p', hstep, hrest⟩ := Option.bind_eq_some_iff.mp hrun
    have hunserved' := h.unserved_of_step hunserved
      (fun i hs => hcalls i (by rw [← hs]; exact List.mem_cons_self)) hstep
    exact ih (h.of_step hstep) hunserved' (fun i hi => hcalls i (List.mem_cons_of_mem s hi)) hrest

/-- A call for a shop without exchange and without token starts an exchange. -/
theorem starts (hunserved : p.Unserved (creds i).shopDomain) (hidle : p.calls i = .idle) :
    ∃ q, p.step creds (.call i) = some q ∧ q.Outstanding i := by
  refine ⟨p.call creds i, ?_, ?_⟩
  · simp only [step, hidle]
  · unfold call TokenService.getAccessToken
    rw [hunserved.2]
    simp only [hunserved.1]
    refine ⟨Function.update_self .., ?_⟩
    change (p.promises.await i i).result i = none
    rw [Promises.result_await]
    exact h.result_of_idle hidle

/-- When the call that started an exchange sees its failure, the shop has no exchange left. -/
theorem unserved_of_failure {err : Thrown} (hstep : p.step creds .resume = some q)
    (hcall : p.calls e = .awaiting e) (hfailed : q.calls e = .resumed e (.error err)) :
    q.Unserved (creds e).shopDomain := by
  cases step_cases hstep with
  | @resumed i e' promises result hnext _ =>
    change Function.update p.calls i (.resumed e' result) e = .resumed e (.error err) at hfailed
    have heq : e = i := by
      by_contra hne
      rw [Function.update_of_ne hne, hcall] at hfailed
      cases hfailed
    rw [heq, Function.update_self] at hfailed
    obtain ⟨rfl, rfl⟩ := TokenCall.resumed.inj hfailed
    subst heq
    change (if e = e then p.service.fetched (creds e).shopDomain _ else p.service).inFlight _ = _ ∧
      (if e = e then p.service.fetched (creds e).shopDomain _ else p.service).cached _ _ = _
    rw [if_pos rfl]
    exact ⟨Function.update_self .., h.unserved _ e (h.inFlight_of_awaiting hcall)⟩

end Consistent

end TokenProcess

/-! ## Single flight -/

section

variable {ι : Type} [DecidableEq ι] {creds : ι → ShopifyTokenServiceCredentials}

open TokenProcess

/-- What holds of the token service and its calls at any time. -/
structure TokenProcess.SingleFlight (creds : ι → ShopifyTokenServiceCredentials)
    (refreshBufferMs : ℤ) (p : TokenProcess ι) : Prop where
  /-- At most one exchange of a shop is outstanding. -/
  one : ∀ i j, p.Outstanding i → p.Outstanding j → (creds i).shopDomain = (creds j).shopDomain →
    i = j
  /-- A token that a call is served from the cache has more than the buffer to live. -/
  fresh : ∀ i q token, p.step creds (.call i) = some q → q.calls i = .served token →
    token.expiresAt - refreshBufferMs > p.now
  /-- A call that awaits an exchange awaits it still at any later time, or went on with its result. -/
  told : ∀ i e, p.calls i = .awaiting e → ∀ steps q, run creds steps p = some q →
    q.calls i = .awaiting e ∨ ∃ result, q.calls i = .resumed e result ∧
      q.promises.result e = some result ∧
      ∃ now response, result = exchanged (creds e) now response
  /-- Once the exchange is settled the call goes on: its job can be run, and when it was, the call
  has the result. -/
  resumes : ∀ i e result, p.calls i = .awaiting e → p.promises.result e = some result →
    ∃ k, (∃ q, run creds (List.replicate (k + 1) .resume) p = some q) ∧
      ∀ steps q, run creds steps p = some q → k < steps.countP TokenStep.isResume →
        q.calls i = .resumed e result
  /-- An exchange whose result any call has seen is no longer in flight. -/
  seen : ∀ i e result, p.calls i = .resumed e result →
    p.service.inFlight (creds e).shopDomain ≠ some e
  /-- Where no job is left, every exchange in flight is outstanding: none of them has failed. -/
  drained : p.promises.jobs = [] → ∀ shop e, p.service.inFlight shop = some e → p.Outstanding e
  /-- When the call that started an exchange sees its failure the shop has no exchange in flight,
  and its next call, whenever it is made, starts one. -/
  restarts : ∀ q e err, p.step creds .resume = some q → p.calls e = .awaiting e →
    q.calls e = .resumed e (.error err) →
    q.service.inFlight (creds e).shopDomain = none ∧
      ∀ steps q', run creds steps q = some q' →
        (∀ j, .call j ∈ steps → (creds j).shopDomain ≠ (creds e).shopDomain) →
        ∀ j, (creds j).shopDomain = (creds e).shopDomain → q'.calls j = .idle →
          ∃ q'', q'.step creds (.call j) = some q'' ∧ q''.Outstanding j

/-- Token fetches are single-flight, and no token of the cache is stale: in every process, after any
calls, answers and failures of the endpoint, jobs, evictions and ticks of the clock. -/
theorem token_fetches_single_flight {refreshBufferMs now : ℤ} {steps : List (TokenStep ι)}
    {p : TokenProcess ι} (hrun : run creds steps (start refreshBufferMs now) = some p) :
    p.SingleFlight creds refreshBufferMs := by
  have h : p.Consistent creds := (TokenProcess.consistent_start refreshBufferMs now).of_run hrun
  constructor
  · intro i j hi hj hshop
    have hflight := h.inFlight_of_awaiting hi.1
    rw [hshop, h.inFlight_of_awaiting hj.1] at hflight
    exact (Option.some.inj hflight).symm
  · intro i q token hstep hserved
    have hbuffer := buffer_of_run hrun
    cases step_cases hstep with
    | @served _ token' _ hcached =>
      have hsame : Function.update p.calls i (.served token') i = .served token := hserved
      rw [Function.update_self] at hsame
      have hfresh := TokenService.fresh_of_cached hcached
      rw [TokenCall.served.inj hsame, hbuffer] at hfresh
      exact hfresh
    | @joined _ e _ _ =>
      have hsame : Function.update p.calls i (.awaiting e) i = .served token := hserved
      rw [Function.update_self] at hsame
      cases hsame
    | started _ _ _ =>
      have hsame : Function.update p.calls i (.awaiting i) i = .served token := hserved
      rw [Function.update_self] at hsame
      cases hsame
  · intro i e hcall steps q hrun
    have hq := h.of_run hrun
    rcases h.awaiting_of_run hcall hrun with hcall' | ⟨result, hcall'⟩
    · exact .inl hcall'
    · have hresult := (hq.resumed i e result hcall').1
      exact .inr ⟨result, hcall', hresult, (hq.settled e result hresult).2⟩
  · intro i e result hcall hresult
    have hsome : (p.promises.result e).isSome := Option.isSome_of_eq_some hresult
    obtain ⟨k, hjob⟩ := Promises.exists_job ((h.awaiting_iff i e).mp hcall) hsome
    refine ⟨k, exists_run_jobs (List.getElem?_eq_some_iff.mp hjob).1, fun steps q hrun hlt => ?_⟩
    exact h.resumed_of_jobs hjob hresult hrun hlt
  · intro i e result hcall hflight
    obtain ⟨_, hawaiting⟩ := (h.inFlight_iff _ e).mp hflight
    rw [(h.resumed i e result hcall).2] at hawaiting
    cases hawaiting
  · intro hjobs shop e hflight
    obtain ⟨_, hcall⟩ := (h.inFlight_iff shop e).mp hflight
    refine ⟨hcall, ?_⟩
    cases hresult : p.promises.result e with
    | none => rfl
    | some result =>
      have hsome : (p.promises.result e).isSome := Option.isSome_of_eq_some hresult
      obtain ⟨k, hjob⟩ := Promises.exists_job ((h.awaiting_iff e e).mp hcall) hsome
      rw [hjobs] at hjob
      cases hjob
  · intro q e err hstep hcall hfailed
    have hunserved := h.unserved_of_failure hstep hcall hfailed
    refine ⟨hunserved.1, fun steps q' hrun hcalls j hshop hidle => ?_⟩
    have hq := h.of_step hstep
    apply (hq.of_run hrun).starts _ hidle
    rw [hshop]
    exact hq.unserved_of_run hunserved hcalls hrun

end

namespace OneShop

/-- All calls are for one shop. -/
def creds (_ : ℕ) : ShopifyTokenServiceCredentials where
  shopDomain := "shop.myshopify.com"
  clientId := "id"
  clientSecret := "secret"

/-- Two calls share an exchange that is refused, a third one comes when it is settled; the next call
starts an exchange of its own, whose token serves a later one until it is evicted. -/
def steps : List (TokenStep ℕ) :=
  [.call 0, .call 1, .tick 10, .exchanged 0 (.ok (.failed 503 "busy")), .call 2, .resume, .resume,
    .resume, .call 3, .exchanged 3 (.ok (.ok (.ok { accessToken := some "t", expiresIn := some 3600 }))),
    .resume, .call 4, .invalidate "shop.myshopify.com", .call 5]

end OneShop

/-- The calls of one shop. -/
theorem token_fetches_single_flight_shop : ∃ p : TokenProcess ℕ,
    TokenProcess.run OneShop.creds OneShop.steps (.start 300000 0) = some p ∧
    p.SingleFlight OneShop.creds 300000 ∧
    p.calls 1 = .resumed 0 (exchanged (OneShop.creds 0) 10 (.ok (.failed 503 "busy"))) ∧
    p.calls 4 = .served { accessToken := "t", expiresAt := 3600010, scope := "" } ∧
    p.Outstanding 5 := by
  obtain ⟨p, hrun⟩ : ∃ p, TokenProcess.run OneShop.creds OneShop.steps (.start 300000 0) = some p :=
    ⟨_, rfl⟩
  have hsingle := token_fetches_single_flight hrun
  cases hrun
  exact ⟨_, rfl, hsingle, rfl, rfl, rfl, rfl⟩

end DpIntegrator
