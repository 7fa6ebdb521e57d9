import DpIntegrator.Credentials.Process
import Mathlib.Data.List.Induction

/-!
# Credential rotation

After a call was refused with 401 and the secrets of the vault were replaced, the next call of the
service uses the new secrets if and only if nothing that was made from other secrets is still served:
no SDK client, no access token or exchange, and no secret of the provider. Nothing is dropped from a
cache because of the refusal.
-/

namespace DpIntegrator

variable {ι : Type} [DecidableEq ι] {jobs : ι → Job} {issuedFor : String → List String}
  {p p' q : CredentialProcess ι} {i j : ι} {steps steps' : List (CredentialStep ι)}
  {step : CredentialStep ι}

/-- The secrets behind an authorization. `issuedFor` tells for which a token was issued. -/
def Authorization.secrets (issuedFor : String → List String) : Authorization → List String
  | .token accessToken => issuedFor accessToken
  | .signature secrets => secrets

/-- The secrets that a call uses, once it has picked its credentials. -/
def CredentialProcess.secretsOf (issuedFor : String → List String) (p : CredentialProcess ι)
    (i : ι) : Option (List String) :=
  match p.calls i with
  | .awaiting exchange => (p.stores.exchanges exchange).map Exchange.secrets
  | .sent authorization | .responded authorization _ => some (authorization.secrets issuedFor)
  | _ => none

/-! ## Runs -/

/-- Token endpoints issue tokens for secrets that they accept, and services answer 401 to what was
not made from secrets that they accept. -/
def CredentialProcess.Answers (jobs : ι → Job) (issuedFor : String → List String)
    (p : CredentialProcess ι) : CredentialStep ι → Prop
  | .turn i (.exchanged (.token accessToken _ _)) => ∀ x, p.stores.exchanges i = some x →
      issuedFor accessToken = x.secrets ∧ (jobs i).secrets p.stores.accepted = some x.secrets
  | .turn i (.responded status) => ∀ authorization, p.calls i = .sent authorization → status ≠ 401 →
      (jobs i).secrets p.stores.accepted = some (authorization.secrets issuedFor)
  | _ => True

/-- A run of a process. -/
inductive CredentialRun (jobs : ι → Job) (issuedFor : String → List String) :
    CredentialProcess ι → List (CredentialStep ι) → CredentialProcess ι → Prop
  | nil (p : CredentialProcess ι) : CredentialRun jobs issuedFor p [] p
  | cons {p q r : CredentialProcess ι} {step : CredentialStep ι} {steps : List (CredentialStep ι)}
      (hanswers : p.Answers jobs issuedFor step) (hstep : p.step jobs step = some q)
      (hrest : CredentialRun jobs issuedFor q steps r) :
      CredentialRun jobs issuedFor p (step :: steps) r

theorem CredentialRun.append (h : CredentialRun jobs issuedFor p steps p')
    (h' : CredentialRun jobs issuedFor p' steps' q) :
    CredentialRun jobs issuedFor p (steps ++ steps') q := by
  induction h with
  | nil => exact h'
  | cons hanswers hstep _ ih => exact .cons hanswers hstep (ih h')

theorem CredentialRun.split (h : CredentialRun jobs issuedFor p (steps ++ steps') q) :
    ∃ p', CredentialRun jobs issuedFor p steps p' ∧ CredentialRun jobs issuedFor p' steps' q := by
  induction steps generalizing p with
  | nil => exact ⟨p, .nil p, h⟩
  | cons step steps ih =>
    cases h with
    | cons hanswers hstep hrest =>
      obtain ⟨p', hleft, hright⟩ := ih hrest
      exact ⟨p', .cons hanswers hstep hleft, hright⟩

theorem CredentialRun.unique {p'' : CredentialProcess ι}
    (h : CredentialRun jobs issuedFor p steps p') (h' : CredentialRun jobs issuedFor p steps p'') :
    p' = p'' := by
  induction h with
  | nil =>
    cases h'
    rfl
  | cons _ hstep _ ih =>
    cases h' with
    | cons _ hstep' hrest' =>
      rw [hstep] at hstep'
      obtain rfl := Option.some.inj hstep'
      exact ih hrest'

/-! ## Exchanges -/

/-- The exchanges that calls and the token service refer to exist, and the tokens of an exchange were
issued for its secrets. -/
structure CredentialProcess.Consistent (issuedFor : String → List String) (p : CredentialProcess ι) :
    Prop where
  fresh : ∀ i, p.calls i = .idle ∨ (∃ reads, p.calls i = .reading reads) →
    p.stores.exchanges i = none
  awaited : ∀ i exchange, p.calls i = .awaiting exchange → p.stores.exchanges exchange ≠ none
  inFlight : ∀ shop exchange, p.stores.tokens.inFlight shop = some exchange →
    p.stores.exchanges exchange ≠ none
  response : ∀ exchange x accessToken scope expiresIn, p.stores.exchanges exchange = some x →
    x.response = some (.token accessToken scope expiresIn) → issuedFor accessToken = x.secrets
  result : ∀ exchange x token, p.stores.exchanges exchange = some x →
    x.result = some (.ok token) → issuedFor token.accessToken = x.secrets

omit [DecidableEq ι] in
theorem consistent_start (vault accepted : Vault) (ttlMs refreshBufferMs : ℤ) :
    (CredentialProcess.start vault accepted ttlMs refreshBufferMs : CredentialProcess ι).Consistent
      issuedFor where
  fresh _ _ := rfl
  awaited _ _ h := by cases h
  inFlight _ _ h := by cases h
  response _ _ _ _ _ h := by cases h
  result _ _ _ h := by cases h

section Turns

variable {call' : CredentialCall ι} {st' : CredentialStores ι} {turn : CredentialTurn}

/-- A turn that leaves the exchanges alone. -/
theorem CredentialProcess.Consistent.keep (h : p.Consistent issuedFor)
    (hexchanges : st'.exchanges = p.stores.exchanges)
    (hinFlight : st'.tokens.inFlight = p.stores.tokens.inFlight)
    (hfresh : call' = .idle ∨ (∃ reads, call' = .reading reads) → p.stores.exchanges i = none)
    (hawaited : ∀ exchange, call' = .awaiting exchange → p.stores.exchanges exchange ≠ none) :
    (p.update i call' st').Consistent issuedFor := by
  refine ⟨fun k hk => ?_, fun k exchange hk => ?_, ?_, ?_, ?_⟩
  · rw [CredentialProcess.update_stores, hexchanges]
    by_cases hki : k = i
    · subst hki
      rw [CredentialProcess.update_calls_self] at hk
      exact hfresh hk
    · rw [CredentialProcess.update_calls_of_ne hki] at hk
      exact h.fresh k hk
  · rw [CredentialProcess.update_stores, hexchanges]
    by_cases hki : k = i
    · subst hki
      rw [CredentialProcess.update_calls_self] at hk
      exact hawaited exchange hk
    · rw [CredentialProcess.update_calls_of_ne hki] at hk
      exact h.awaited k exchange hk
  · rw [CredentialProcess.update_stores, hexchanges, hinFlight]
    exact h.inFlight
  · rw [CredentialProcess.update_stores, hexchanges]
    exact h.response
  · rw [CredentialProcess.update_stores, hexchanges]
    exact h.result

/-- A turn that writes the exchange of its call. -/
theorem CredentialProcess.Consistent.setExchange {x : Exchange} (h : p.Consistent issuedFor)
    (hexchanges : st'.exchanges = Function.update p.stores.exchanges i (some x))
    (hinFlight : ∀ shop exchange, st'.tokens.inFlight shop = some exchange →
      p.stores.tokens.inFlight shop = some exchange ∨ exchange = i)
    (hfresh : call' ≠ .idle ∧ ∀ reads, call' ≠ .reading reads)
    (hawaited : ∀ exchange, call' = .awaiting exchange → exchange = i)
    (hresponse : ∀ accessToken scope expiresIn,
      x.response = some (.token accessToken scope expiresIn) → issuedFor accessToken = x.secrets)
    (hresult : ∀ token, x.result = some (.ok token) → issuedFor token.accessToken = x.secrets) :
    (p.update i call' st').Consistent issuedFor := by
  have hkept : ∀ exchange, p.stores.exchanges exchange ≠ none ∨ exchange = i →
      st'.exchanges exchange ≠ none := by
    intro exchange hexchange
    rw [hexchanges]
    by_cases hi : exchange = i
    · subst hi
      simp
    · rw [Function.update_of_ne hi]
      exact hexchange.resolve_right hi
  have hat : ∀ exchange y, st'.exchanges exchange = some y →
      y = x ∨ p.stores.exchanges exchange = some y := by
    intro exchange y hy
    rw [hexchanges] at hy
    by_cases hi : exchange = i
    · subst hi
      rw [Function.update_self] at hy
      exact .inl (Option.some.inj hy).symm
    · rw [Function.update_of_ne hi] at hy
      exact .inr hy
  refine ⟨fun k hk => ?_, fun k exchange hk => ?_, fun shop exchange hshop => ?_, ?_, ?_⟩
  · by_cases hki : k = i
    · subst hki
      rw [CredentialProcess.update_calls_self] at hk
      obtain hidle | ⟨reads, hreading⟩ := hk
      · exact absurd hidle hfresh.1
      · exact absurd hreading (hfresh.2 reads)
    · rw [CredentialProcess.update_calls_of_ne hki] at hk
      rw [CredentialProcess.update_stores, hexchanges, Function.update_of_ne hki]
      exact h.fresh k hk
  · by_cases hki : k = i
    · subst hki
      rw [CredentialProcess.update_calls_self] at hk
      exact hkept exchange (.inr (hawaited exchange hk))
    · rw [CredentialProcess.update_calls_of_ne hki] at hk
      exact hkept exchange (.inl (h.awaited k exchange hk))
  · obtain hold | hown := hinFlight shop exchange hshop
    · exact hkept exchange (.inl (h.inFlight shop exchange hold))
    · exact hkept exchange (.inr hown)
  · intro exchange y accessToken scope expiresIn hy htoken
    obtain rfl | hold := hat exchange y hy
    · exact hresponse _ _ _ htoken
    · exact h.response exchange y _ _ _ hold htoken
  · intro exchange y token hy htoken
    obtain rfl | hold := hat exchange y hy
    · exact hresult _ htoken
    · exact h.result exchange y _ hold htoken

/-- A token that was fetched is the token of the response. -/
theorem fetchedToken_eq_ok {now : ℤ} {response : TokenResponse} {token : CachedToken}
    (h : fetchedToken now response = .ok token) :
    ∃ scope expiresIn, response = .token token.accessToken scope expiresIn := by
  cases response with
  | refused | noToken => cases h
  | token accessToken scope expiresIn =>
    cases h
    exact ⟨scope, expiresIn, rfl⟩

omit [DecidableEq ι] in
theorem TokenService.inFlight_of_fetched {service : TokenService ι} {shopDomain shop : String}
    {exchange : ι} (result : Except (Option ℕ) CachedToken)
    (h : (service.fetched shopDomain result).inFlight shop = some exchange) :
    service.inFlight shop = some exchange := by
  unfold TokenService.fetched at h
  dsimp only at h
  by_cases hshop : shop = shopDomain
  · subst hshop
    rw [Function.update_self] at h
    cases h
  · rwa [Function.update_of_ne hshop] at h

theorem CredentialProcess.Consistent.of_turn (h : p.Consistent issuedFor)
    (hanswers : p.Answers jobs issuedFor (.turn i turn))
    (hturn : TurnTaken i (jobs i) p.stores turn (p.calls i) call' st') :
    (p.update i call' st').Consistent issuedFor := by
  generalize hcall : p.calls i = call at hturn
  cases hturn with
  | cachedClient | cachedToken | webhook | client | unhydrated | resumed | notResumed | responded =>
    exact h.keep rfl rfl (by simp) (by simp)
  | made => exact h.keep rfl rfl (fun _ => h.fresh i (.inl hcall)) (by simp)
  | vaultAnswered | secretArrived =>
    exact h.keep rfl rfl (fun _ => h.fresh i (.inr ⟨_, hcall⟩)) (by simp)
  | @existing _ _ connection exchange _ hsource =>
    refine h.keep rfl rfl (by simp) fun exchange' heq => ?_
    cases heq
    unfold TokenService.getAccessToken at hsource
    split at hsource
    · cases hsource
    · split at hsource
      · next hinFlight =>
        cases hsource
        exact h.inFlight _ _ hinFlight
      · cases hsource
  | @fetch _ _ connection secrets =>
    refine h.setExchange rfl (fun shop exchange hshop => ?_) (by simp) (by simp) (by simp) (by simp)
    unfold CredentialStores.setExchange TokenService.fetching at hshop
    dsimp only at hshop
    by_cases heq : shop = connection.shopifyStore
    · subst heq
      rw [Function.update_self] at hshop
      exact .inr (Option.some.inj hshop).symm
    · rw [Function.update_of_ne heq] at hshop
      exact .inl hshop
  | @exchanged response secrets hexchange =>
    refine h.setExchange rfl (fun _ _ => .inl) (by simp) (by simp) (fun accessToken _ _ heq => ?_)
      (by simp)
    obtain rfl := Option.some.inj heq
    exact (hanswers _ hexchange).1
  | @fetched now connection secrets response token _ hexchange hresult =>
    have hissued : issuedFor token.accessToken = secrets := by
      obtain ⟨scope, expiresIn, rfl⟩ := fetchedToken_eq_ok hresult
      exact h.response _ _ _ _ _ hexchange rfl
    refine h.setExchange rfl
      (fun _ _ hshop => .inl (TokenService.inFlight_of_fetched (.ok token) hshop))
      (by simp) (by simp) (fun accessToken _ _ heq => ?_) fun token' heq => ?_
    · have hold : issuedFor accessToken = secrets := h.response _ _ _ _ _ hexchange heq
      exact hold
    · cases heq
      exact hissued
  | @notFetched now connection secrets response status _ hexchange hresult =>
    refine h.setExchange rfl
      (fun _ _ hshop => .inl (TokenService.inFlight_of_fetched (.error status) hshop))
      (by simp) (by simp) (fun accessToken _ _ heq => ?_) fun token' heq => ?_
    · have hold : issuedFor accessToken = secrets := h.response _ _ _ _ _ hexchange heq
      exact hold
    · cases heq

/-- A turn leaves the vault and what the services accept alone. -/
theorem TurnTaken.vault_eq {st : CredentialStores ι} {job : Job} {call : CredentialCall ι}
    (h : TurnTaken i job st turn call call' st') :
    st'.vault = st.vault ∧ st'.accepted = st.accepted := by
  cases h <;> exact ⟨rfl, rfl⟩

/-- A turn keeps the secrets of every exchange of another call. -/
theorem TurnTaken.exchange_of_ne {st : CredentialStores ι} {job : Job} {call : CredentialCall ι}
    {exchange : ι} (h : TurnTaken i job st turn call call' st') (hne : exchange ≠ i) :
    st'.exchanges exchange = st.exchanges exchange := by
  cases h <;> first | rfl | exact Function.update_of_ne hne ..

/-- A turn of a call that waits for its exchange keeps the secrets of that exchange. -/
theorem TurnTaken.exchange_self {st : CredentialStores ι} {job : Job} {x : Exchange}
    {call : CredentialCall ι} (h : TurnTaken i job st turn call call' st')
    (hcall : ∀ reads, call ≠ .reading reads) (hx : st.exchanges i = some x) :
    ∃ x', st'.exchanges i = some x' ∧ x'.secrets = x.secrets := by
  cases h with
  | exchanged hexchange | fetched _ hexchange _ | notFetched _ hexchange _ =>
    rw [hexchange] at hx
    cases hx
    exact ⟨_, Function.update_self .., rfl⟩
  | fetch => exact absurd rfl (hcall _)
  | _ => exact ⟨x, hx, rfl⟩

end Turns

/-- Every step of a run is a turn, a rotation or a change of what the services accept. -/
theorem CredentialProcess.step_cases (h : p.step jobs step = some q) :
    (∃ i turn call st, step = .turn i turn ∧ q = p.update i call st ∧
      TurnTaken i (jobs i) p.stores turn (p.calls i) call st) ∨
    (∃ vault, step = .rotate vault ∧ q = { p with stores := { p.stores with vault } }) ∨
    ∃ accepted, step = .issue accepted ∧ q = { p with stores := { p.stores with accepted } } := by
  cases step with
  | turn i turn =>
    obtain ⟨⟨call, st⟩, hturn, rfl⟩ := Option.map_eq_some_iff.mp h
    exact .inl ⟨i, turn, call, st, rfl, rfl, turnTaken hturn⟩
  | rotate vault => exact .inr (.inl ⟨vault, rfl, (Option.some.inj h).symm⟩)
  | issue accepted => exact .inr (.inr ⟨accepted, rfl, (Option.some.inj h).symm⟩)

theorem CredentialProcess.Consistent.of_step (h : p.Consistent issuedFor)
    (hanswers : p.Answers jobs issuedFor step) (hstep : p.step jobs step = some q) :
    q.Consistent issuedFor := by
  obtain ⟨i, turn, call, st, rfl, rfl, hturn⟩ | ⟨vault, rfl, rfl⟩ | ⟨accepted, rfl, rfl⟩ :=
    CredentialProcess.step_cases hstep
  · exact h.of_turn hanswers hturn
  · exact ⟨h.fresh, h.awaited, h.inFlight, h.response, h.result⟩
  · exact ⟨h.fresh, h.awaited, h.inFlight, h.response, h.result⟩

theorem CredentialProcess.Consistent.of_run (h : p.Consistent issuedFor)
    (hrun : CredentialRun jobs issuedFor p steps q) : q.Consistent issuedFor := by
  induction hrun with
  | nil => exact h
  | cons hanswers hstep _ ih => exact ih (h.of_step hanswers hstep)

/-! ## What a call picks -/

/-- How a read of a call stands that found `provider` at the time `now`, if the vault is not changed
meanwhile. -/
inductive ReadSince (vault : Vault) (provider : SecretProvider) (now : ℤ) (ref : String) :
    SecretRead → Prop
  | cached {value : String} (h : provider.cached ref now = some value) :
      ReadSince vault provider now ref (.resolved value)
  | asked (h : provider.cached ref now = none) : ReadSince vault provider now ref .asked
  | answered (h : provider.cached ref now = none) :
      ReadSince vault provider now ref (.answered (vault ref))
  | resolved {value : String} (h : provider.cached ref now = none) (hvault : vault ref = some value) :
      ReadSince vault provider now ref (.resolved value)
  | rejected (h : provider.cached ref now = none) : ReadSince vault provider now ref .rejected

section Reads

variable {vault : Vault} {provider : SecretProvider} {now : ℤ} {ref : String} {read : SecretRead}
  {reads : List (String × SecretRead)}

theorem readSince_getSecret (vault : Vault) (provider : SecretProvider) (now : ℤ) (ref : String) :
    ReadSince vault provider now ref (provider.getSecret now ref) := by
  unfold SecretProvider.getSecret
  cases hcached : provider.cached ref now with
  | some value => exact .cached hcached
  | none => exact .asked hcached

theorem ReadSince.answer (h : ReadSince vault provider now ref .asked) :
    ReadSince vault provider now ref (.answered (vault ref)) := by
  cases h with
  | asked h => exact .answered h

theorem ReadSince.receive {value : Option String} {provider' : SecretProvider} {now' : ℤ}
    (h : ReadSince vault provider now ref (.answered value)) :
    ReadSince vault provider now ref (provider'.receive now' ref value).1 := by
  cases h with
  | answered h =>
    unfold SecretProvider.receive
    split
    · next value hvault =>
      split
      · exact .rejected h
      · exact .resolved h hvault
    · exact .rejected h

/-- The secrets of a call that has read them all are those of the vault if and only if the provider
served no others. Induction on the reads. -/
theorem mapM_reads_iff {secrets : List String}
    (hreads : ∀ read ∈ reads, ReadSince vault provider now read.1 read.2)
    (hvalues : (reads.mapM fun read => read.2.value?) = some secrets) :
    (reads.map Prod.fst).mapM vault = some secrets ↔
      ∀ ref ∈ reads.map Prod.fst, ∀ value, provider.cached ref now = some value →
        vault ref = some value := by
  induction reads generalizing secrets with
  | nil =>
    cases hvalues
    simp
  | cons read reads ih =>
    rw [List.mapM_cons] at hvalues
    obtain ⟨value, hvalue, hrest⟩ := Option.bind_eq_some_iff.mp hvalues
    obtain ⟨values, hvalues', hsecrets⟩ := Option.bind_eq_some_iff.mp hrest
    obtain rfl := Option.some.inj hsecrets
    have ih := ih (fun read hread => hreads read (List.mem_cons_of_mem _ hread)) hvalues'
    have hhead : vault read.1 = some value ↔ ∀ value, provider.cached read.1 now = some value →
        vault read.1 = some value := by
      have hread := hreads read (List.mem_cons_self ..)
      generalize hvalue' : read.2 = r at hread hvalue
      cases hread with
      | cached h =>
        cases hvalue
        constructor
        · intro hvault value' hcached
          rw [h] at hcached
          cases hcached
          exact hvault
        · exact fun hall => hall _ h
      | resolved h hvault =>
        cases hvalue
        refine ⟨fun _ value' hcached => ?_, fun _ => hvault⟩
        rw [h] at hcached
        cases hcached
      | asked | answered | rejected => cases hvalue
    have hcons : (read.1 :: reads.map Prod.fst).mapM vault = some (value :: values) ↔
        vault read.1 = some value ∧ (reads.map Prod.fst).mapM vault = some values := by
      rw [List.mapM_cons]
      constructor
      · intro h
        obtain ⟨v, hv, h⟩ := Option.bind_eq_some_iff.mp h
        obtain ⟨vs, hvs, h⟩ := Option.bind_eq_some_iff.mp h
        cases h
        exact ⟨hv, hvs⟩
      · rintro ⟨hv, hvs⟩
        rw [hv, hvs]
        rfl
    rw [List.map_cons, hcons, ih, hhead, List.forall_mem_cons]

/-- Reads keep their refs. -/
theorem map_fst_set {k : ℕ} {read' : SecretRead} (h : reads[k]? = some (ref, read)) :
    (reads.set k (ref, read')).map Prod.fst = reads.map Prod.fst := by
  obtain ⟨hk, heq⟩ := List.getElem?_eq_some_iff.mp h
  have hk : k < (reads.map Prod.fst).length := by simpa using hk
  have href : (reads.map Prod.fst)[k] = ref := by simp [heq]
  rw [List.map_set]
  exact href ▸ List.set_getElem_self hk

end Reads

/-- A turn of a call. -/
def CredentialStep.IsTurn : CredentialStep ι → Prop
  | .turn .. => True
  | _ => False

/-- What the caches would authorize a request with, apart from the secrets that were just read. -/
def CredentialStores.served (issuedFor : String → List String) (st : CredentialStores ι) (job : Job)
    (now : ℤ) : Option (List String) :=
  match job with
  | .shopify connection =>
    match st.tokens.cached connection.shopifyStore now with
    | some token => some (issuedFor token.accessToken)
    | none =>
      (st.tokens.inFlight connection.shopifyStore).bind fun exchange =>
        (st.exchanges exchange).map Exchange.secrets
  | _ => none

/-- How a process stands after call `j` was made in `p` at the time `now`. -/
structure Since (jobs : ι → Job) (p : CredentialProcess ι) (j : ι) (now : ℤ)
    (q : CredentialProcess ι) : Prop where
  vault : q.stores.vault = p.stores.vault
  accepted : q.stores.accepted = p.stores.accepted
  made : q.calls j ≠ .idle
  reads : ∀ reads, q.calls j = .reading reads → reads.map Prod.fst = (jobs j).refs ∧
    ∀ read ∈ reads, ReadSince p.stores.vault p.stores.provider now read.1 read.2

section Since

variable {now : ℤ}

theorem since_made (hstep : p.step jobs (.turn j (.made now)) = some q) : Since jobs p j now q := by
  obtain ⟨i, turn, call, st, hturn', rfl, hturn⟩ | ⟨_, heq, _⟩ | ⟨_, heq, _⟩ :=
    CredentialProcess.step_cases hstep
  · cases hturn'
    obtain ⟨hvault, haccepted⟩ := hturn.vault_eq
    refine ⟨hvault, haccepted, ?_, fun reads hreads => ?_⟩
    · rw [CredentialProcess.update_calls_self]
      generalize p.calls j = call' at hturn
      cases hturn <;> simp
    · rw [CredentialProcess.update_calls_self] at hreads
      generalize p.calls j = call' at hturn
      cases hturn with
      | cachedClient => cases hreads
      | made =>
        cases hreads
        refine ⟨?_, fun read hread => ?_⟩
        · rw [List.map_map]
          exact List.map_id _
        · obtain ⟨ref, _, rfl⟩ := List.mem_map.mp hread
          exact readSince_getSecret ..
  · cases heq
  · cases heq

theorem Since.of_step (h : Since jobs p j now q) (hturn : step.IsTurn)
    (hstep : q.step jobs step = some p') : Since jobs p j now p' := by
  obtain ⟨i, turn, call, st, rfl, rfl, hturn⟩ | ⟨_, rfl, _⟩ | ⟨_, rfl, _⟩ :=
    CredentialProcess.step_cases hstep
  · obtain ⟨hvault, haccepted⟩ := hturn.vault_eq
    refine ⟨hvault.trans h.vault, haccepted.trans h.accepted, ?_, fun reads hreads => ?_⟩
    · by_cases hij : j = i
      · subst hij
        rw [CredentialProcess.update_calls_self]
        generalize q.calls j = call' at hturn
        cases hturn <;> simp
      · rw [CredentialProcess.update_calls_of_ne hij]
        exact h.made
    · by_cases hij : j = i
      · subst hij
        rw [CredentialProcess.update_calls_self] at hreads
        generalize hcall : q.calls j = call' at hturn
        have hreading := h.reads
        rw [hcall] at hreading
        cases hturn with
        | made => exact absurd hcall h.made
        | @vaultAnswered k ref reads' hread =>
          cases hreads
          obtain ⟨hrefs, hall⟩ := hreading reads' rfl
          have hmem := List.mem_of_getElem? hread
          refine ⟨?_, fun read hset => ?_⟩
          · rw [← hrefs]
            exact map_fst_set hread
          · obtain hold | rfl := List.mem_or_eq_of_mem_set hset
            · exact hall read hold
            · rw [h.vault]
              exact (hall _ hmem).answer
        | @secretArrived k now' ref value reads' hread =>
          cases hreads
          obtain ⟨hrefs, hall⟩ := hreading reads' rfl
          have hmem := List.mem_of_getElem? hread
          refine ⟨?_, fun read hset => ?_⟩
          · rw [← hrefs]
            exact map_fst_set hread
          · obtain hold | rfl := List.mem_or_eq_of_mem_set hset
            · exact hall read hold
            · exact (hall _ hmem).receive
        | _ => cases hreads
      · rw [CredentialProcess.update_calls_of_ne hij] at hreads
        exact h.reads reads hreads
  · cases hturn
  · cases hturn

/-- Induction on the turns, from the last one. -/
theorem since_of_run {turns : List (CredentialStep ι)}
    (hrun : CredentialRun jobs issuedFor p (.turn j (.made now) :: turns) q)
    (hturns : ∀ step ∈ turns, step.IsTurn) : Since jobs p j now q := by
  induction turns using List.reverseRecOn generalizing q with
  | nil =>
    cases hrun with
    | cons _ hstep hrest =>
      cases hrest
      exact since_made hstep
  | append_singleton turns step ih =>
    rw [← List.cons_append] at hrun
    obtain ⟨q₁, hrun₁, hlast⟩ := hrun.split
    cases hlast with
    | cons _ hstep hrest =>
      cases hrest
      exact (ih hrun₁ fun step hmem => hturns step (List.mem_append_left _ hmem)).of_step
        (hturns step (List.mem_append_right _ (List.mem_singleton_self _))) hstep

end Since

/-- Nothing that is served to call `j`, made at `now` in `p`, comes from other secrets than those of
the vault, when it picks its credentials in `q` at `now'`. -/
def PicksNewSecrets (jobs : ι → Job) (issuedFor : String → List String) (p : CredentialProcess ι)
    (j : ι) (now : ℤ) (q : CredentialProcess ι) (now' : ℤ) : Prop :=
  match q.stores.served issuedFor (jobs j) now' with
  | some secrets => (jobs j).secrets p.stores.vault = some secrets
  | none => ∀ ref ∈ (jobs j).refs, ∀ value, p.stores.provider.cached ref now = some value →
      p.stores.vault ref = some value

section Picks

variable {now now' : ℤ} {secrets : List String}

/-- What a call uses does not change once it has picked its credentials. -/
theorem secretsOf_of_step (hconsistent : q.Consistent issuedFor) (hmade : q.calls j ≠ .idle)
    (hturn : step.IsTurn) (hpick : ∀ now', step ≠ .turn j (.hydrated now'))
    (hstep : q.step jobs step = some p') (h : p'.secretsOf issuedFor j = some secrets) :
    q.secretsOf issuedFor j = some secrets := by
  obtain ⟨i, turn, call, st, rfl, rfl, htaken⟩ | ⟨_, rfl, _⟩ | ⟨_, rfl, _⟩ :=
    CredentialProcess.step_cases hstep
  · unfold CredentialProcess.secretsOf at h ⊢
    by_cases hij : j = i
    · subst hij
      rw [CredentialProcess.update_calls_self] at h
      generalize hcall : q.calls j = call' at htaken
      cases htaken with
      | cachedClient | made => exact absurd hcall hmade
      | vaultAnswered | secretArrived | unhydrated | notFetched | notResumed => cases h
      | webhook | client | cachedToken | existing | fetch => exact absurd rfl (hpick _)
      | exchanged hexchange =>
        dsimp only at h ⊢
        rw [hexchange]
        rwa [CredentialProcess.update_stores, CredentialStores.setExchange_self] at h
      | fetched _ hexchange hresult =>
        dsimp only at h ⊢
        obtain ⟨scope, expiresIn, rfl⟩ := fetchedToken_eq_ok hresult
        rw [hexchange, ← h]
        exact congrArg some (hconsistent.response _ _ _ _ _ hexchange rfl).symm
      | resumed hexchange hresult =>
        dsimp only at h ⊢
        rw [hexchange, ← h]
        exact congrArg some (hconsistent.result _ _ _ hexchange hresult).symm
      | responded => exact h
    · rw [CredentialProcess.update_calls_of_ne hij] at h
      split at h
      · next exchange hcall =>
        by_cases hi : exchange = i
        · subst hi
          have hexists := hconsistent.awaited _ _ hcall
          obtain ⟨x, hx⟩ := Option.ne_none_iff_exists'.mp hexists
          have hnotReading : ∀ reads, q.calls exchange ≠ .reading reads := fun reads hreading =>
            hexists (hconsistent.fresh _ (.inr ⟨reads, hreading⟩))
          obtain ⟨x', hx', hsame⟩ := htaken.exchange_self hnotReading hx
          rw [CredentialProcess.update_stores, hx'] at h
          rw [hx, ← h, Option.map_some, Option.map_some, hsame]
        · rwa [CredentialProcess.update_stores, htaken.exchange_of_ne hi] at h
      · exact h
      · exact h
      · cases h
  · cases hturn
  · cases hturn

/-- A call picks the new secrets if and only if nothing else is served to it. -/
theorem picks_iff (hservice : ∀ ref, jobs j ≠ .webhook ref) (hsince : Since jobs p j now q)
    (hconsistent : q.Consistent issuedFor)
    (hstep : q.step jobs (.turn j (.hydrated now')) = some p') :
    (∀ secrets, p'.secretsOf issuedFor j = some secrets →
        (jobs j).secrets p.stores.vault = some secrets) ↔
      PicksNewSecrets jobs issuedFor p j now q now' := by
  obtain ⟨i, turn, call, st, hturn, rfl, htaken⟩ | ⟨_, heq, _⟩ | ⟨_, heq, _⟩ :=
    CredentialProcess.step_cases hstep
  · cases hturn
    unfold CredentialProcess.secretsOf PicksNewSecrets CredentialStores.served
    rw [CredentialProcess.update_calls_self, CredentialProcess.update_stores]
    have hreading := hsince.reads
    generalize q.calls j = call' at htaken hreading
    cases htaken with
    | webhook hjob => exact absurd hjob (hservice _)
    | client hjob hvalues =>
      obtain ⟨hrefs, hreads⟩ := hreading _ rfl
      have hiff := mapM_reads_iff hreads hvalues
      rw [hrefs] at hiff
      rw [hjob]
      dsimp only
      rw [← hjob, ← hiff]
      constructor
      · exact fun h => h _ rfl
      · rintro h secrets' heq
        cases heq
        exact h
    | @cachedToken _ _ connection token hjob hsource =>
      have hcached : q.stores.tokens.cached connection.shopifyStore now' = some token := by
        unfold TokenService.getAccessToken at hsource
        split at hsource
        · next htoken =>
          cases hsource
          exact htoken
        · split at hsource <;> cases hsource
      rw [hjob]
      dsimp only
      rw [hcached]
      constructor
      · exact fun h => h _ rfl
      · rintro h secrets' heq
        cases heq
        exact h
    | @existing _ _ connection exchange hjob hsource =>
      obtain ⟨hcached, hinFlight⟩ : q.stores.tokens.cached connection.shopifyStore now' = none ∧
          q.stores.tokens.inFlight connection.shopifyStore = some exchange := by
        unfold TokenService.getAccessToken at hsource
        split at hsource
        · cases hsource
        · next hnone =>
          split at hsource
          · next hflight =>
            cases hsource
            exact ⟨hnone, hflight⟩
          · cases hsource
      obtain ⟨x, hx⟩ := Option.ne_none_iff_exists'.mp (hconsistent.inFlight _ _ hinFlight)
      rw [hjob]
      dsimp only
      rw [hcached, hinFlight, Option.bind_some, hx, Option.map_some]
      constructor
      · exact fun h => h _ rfl
      · rintro h secrets' heq
        cases heq
        exact h
    | @fetch _ reads connection secrets hjob hvalues hsource =>
      obtain ⟨hrefs, hreads⟩ := hreading _ rfl
      have hiff := mapM_reads_iff hreads hvalues
      rw [hrefs] at hiff
      obtain ⟨hcached, hinFlight⟩ : q.stores.tokens.cached connection.shopifyStore now' = none ∧
          q.stores.tokens.inFlight connection.shopifyStore = none := by
        unfold TokenService.getAccessToken at hsource
        split at hsource
        · cases hsource
        · next hnone =>
          split at hsource
          · cases hsource
          · next hflight => exact ⟨hnone, hflight⟩
      rw [hjob] at hiff ⊢
      dsimp only
      rw [hcached, hinFlight, Option.bind_none, ← hiff]
      rw [CredentialStores.setExchange_self, Option.map_some]
      constructor
      · exact fun h => h _ rfl
      · rintro h secrets' heq
        cases heq
        exact h
  · cases heq
  · cases heq

end Picks

end DpIntegrator
