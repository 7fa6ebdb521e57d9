import DpIntegrator.Credentials.Caches

/-!
# Calls that need credentials

A process calls Shopify and NetSuite, and reads webhook secrets, through its caches. A call is cut
at its awaits: between two of them it runs without interruption, which is one turn. Other turns are
those in which the vault, a token endpoint or a remote service answers. Operators replace the
secrets of the vault at any time.
-/

namespace DpIntegrator

/-- What `resolveAccessToken` reads of a connection. -/
structure ShopifyConnection where
  shopifyStore : String
  shopifyAppTokenRef : String
  shopifyWebhookSecretRef : String

/-- What a call needs secrets for. -/
inductive Job
  /-- A request of the Shopify gateway. -/
  | shopify (connection : ShopifyConnection)
  /-- A request of the NetSuite gateway. -/
  | netsuite (account : NsAccountConfig)
  /-- The check of a webhook. -/
  | webhook (secretRef : String)

namespace Job

/-- The refs of the secrets, in the order in which they are asked for. -/
def refs : Job → List String
  | .shopify connection => [connection.shopifyAppTokenRef, connection.shopifyWebhookSecretRef]
  | .netsuite account =>
    [account.credentials.consumerKeyRef, account.credentials.consumerSecretRef,
      account.credentials.tokenKeyRef, account.credentials.tokenSecretRef]
  | .webhook secretRef => [secretRef]

/-- The secrets of the vault. -/
def secrets (job : Job) (vault : Vault) : Option (List String) := job.refs.mapM vault

/-- Both call one shop, or one NetSuite account. -/
def SameService : Job → Job → Prop
  | .shopify connection, .shopify connection' => connection.shopifyStore = connection'.shopifyStore
  | .netsuite account, .netsuite account' => account.accountId = account'.accountId
  | _, _ => False

end Job

/-- What a request is authorized by: an access token, or signatures made with secrets. -/
inductive Authorization
  | token (accessToken : String)
  | signature (secrets : List String)

/-- A call, at one of its awaits. `ι` names calls. -/
inductive CredentialCall (ι : Type)
  /-- Not made yet. -/
  | idle
  /-- At the `Promise.all` of its secrets. -/
  | reading (reads : List (String × SecretRead))
  /-- At the promise of a token exchange, its own or another call's. -/
  | awaiting (exchange : ι)
  /-- The request is under way. -/
  | sent (authorization : Authorization)
  /-- The request was responded to. -/
  | responded (authorization : Authorization) (status : ℕ)
  /-- The secret of a webhook is there. -/
  | done
  /-- Failed before a request was made; a refused token exchange leaves its status. -/
  | failed (status : Option ℕ)

/-- A token exchange: what it was started with, the response of the endpoint, and the result of its
promise. -/
structure Exchange where
  secrets : List String
  response : Option TokenResponse := none
  result : Option (Except (Option ℕ) CachedToken) := none

/-- What all calls of a process share, the vault, and the secrets that the services accept. -/
structure CredentialStores (ι : Type) where
  vault : Vault
  accepted : Vault
  provider : SecretProvider := {}
  tokens : TokenService ι := {}
  exchanges : ι → Option Exchange := fun _ => none
  clients : ClientCache := fun _ => none

/-- What lets a call go on. -/
inductive CredentialTurn
  /-- The call is made. -/
  | made (now : ℤ)
  /-- The vault answers the `k`-th read. -/
  | vaultAnswered (k : ℕ)
  /-- The answer of the vault arrives. -/
  | secretArrived (k : ℕ) (now : ℤ)
  /-- All secrets are there. -/
  | hydrated (now : ℤ)
  /-- A secret is missing. -/
  | unhydrated
  /-- The token endpoint answers the exchange of the call. -/
  | exchanged (response : TokenResponse)
  /-- The response of its exchange arrives. -/
  | fetched (now : ℤ)
  /-- The promise of another call's exchange is settled. -/
  | resumed
  /-- The remote service responds to the request. -/
  | responded (status : ℕ)

variable {ι : Type} [DecidableEq ι]

/-- Write the exchange that call `i` has started. -/
def CredentialStores.setExchange (st : CredentialStores ι) (i : ι) (exchange : Exchange) :
    CredentialStores ι :=
  { st with exchanges := Function.update st.exchanges i (some exchange) }

@[simp] theorem CredentialStores.setExchange_self (st : CredentialStores ι) (i : ι)
    (exchange : Exchange) : (st.setExchange i exchange).exchanges i = some exchange :=
  Function.update_self ..

open CredentialCall in
/-- How call `i` goes on, if it can at that turn. -/
def credentialTurn (i : ι) (job : Job) :
    CredentialTurn → CredentialCall ι → CredentialStores ι →
      Option (CredentialCall ι × CredentialStores ι)
  | .made now, .idle, st =>
    let read := reading (job.refs.map fun ref => (ref, st.provider.getSecret now ref))
    match job with
    | .netsuite account =>
      match st.clients account.accountId with
      | some secrets => some (sent (.signature secrets), st)
      | none => some (read, st)
    | _ => some (read, st)
  | .vaultAnswered k, .reading reads, st =>
    match reads[k]? with
    | some (ref, .asked) => some (.reading (reads.set k (ref, .answered (st.vault ref))), st)
    | _ => none
  | .secretArrived k now, .reading reads, st =>
    match reads[k]? with
    | some (ref, .answered value) =>
      let (read, provider) := st.provider.receive now ref value
      some (.reading (reads.set k (ref, read)), { st with provider })
    | _ => none
  | .hydrated now, .reading reads, st =>
    match reads.mapM fun read => read.2.value? with
    | none => none
    | some secrets =>
      match job with
      | .webhook _ => some (.done, st)
      | .netsuite account =>
        some (.sent (.signature secrets),
          { st with clients := Function.update st.clients account.accountId (some secrets) })
      | .shopify connection =>
        match st.tokens.getAccessToken connection.shopifyStore now with
        | .cached token => some (.sent (.token token.accessToken), st)
        | .existing exchange => some (.awaiting exchange, st)
        | .fetch =>
          some (.awaiting i,
            { st with tokens := st.tokens.fetching connection.shopifyStore i }.setExchange i
              { secrets })
  | .unhydrated, .reading reads, st =>
    if reads.any fun read => read.2 = .rejected then some (.failed none, st) else none
  | .exchanged response, .awaiting exchange, st =>
    match st.exchanges i with
    | some { secrets, response := none, result := none } =>
      if exchange = i then
        some (.awaiting i, st.setExchange i { secrets, response := some response })
      else none
    | _ => none
  | .fetched now, .awaiting exchange, st =>
    match job, st.exchanges i with
    | .shopify connection, some { secrets, response := some response, result := none } =>
      if exchange = i then
        let result := fetchedToken now response
        let call := match result with
          | .ok token => CredentialCall.sent (.token token.accessToken)
          | .error status => .failed status
        some (call,
          { st with tokens := st.tokens.fetched connection.shopifyStore result }.setExchange i
            { secrets, response := some response, result := some result })
      else none
    | _, _ => none
  | .resumed, .awaiting exchange, st =>
    match st.exchanges exchange with
    | some { result := some result, .. } =>
      if exchange = i then none
      else match result with
        | .ok token => some (.sent (.token token.accessToken), st)
        | .error status => some (.failed status, st)
    | _ => none
  | .responded status, .sent authorization, st => some (.responded authorization status, st)
  | _, _, _ => none

/-- A call has a turn, operators replace the secrets of the vault, or the services change what they
accept. -/
inductive CredentialStep (ι : Type)
  | turn (i : ι) (turn : CredentialTurn)
  | rotate (vault : Vault)
  | issue (accepted : Vault)

/-- A process: its calls and what they share. -/
structure CredentialProcess (ι : Type) where
  calls : ι → CredentialCall ι
  stores : CredentialStores ι

namespace CredentialProcess

/-- A process that has made no call. -/
def start (vault accepted : Vault) (ttlMs refreshBufferMs : ℤ) : CredentialProcess ι where
  calls _ := .idle
  stores := { vault, accepted, provider := { ttlMs }, tokens := { refreshBufferMs } }

/-- Call `i` has gone on. -/
def update (p : CredentialProcess ι) (i : ι) (call : CredentialCall ι)
    (stores : CredentialStores ι) : CredentialProcess ι where
  calls := Function.update p.calls i call
  stores := stores

section Update

variable {p : CredentialProcess ι} {i k : ι} {call : CredentialCall ι} {stores : CredentialStores ι}

@[simp] theorem update_stores : (p.update i call stores).stores = stores := rfl

@[simp] theorem update_calls_self : (p.update i call stores).calls i = call :=
  Function.update_self ..

theorem update_calls_of_ne (h : k ≠ i) : (p.update i call stores).calls k = p.calls k :=
  Function.update_of_ne h ..

end Update

def step (jobs : ι → Job) (p : CredentialProcess ι) :
    CredentialStep ι → Option (CredentialProcess ι)
  | .turn i turn =>
    (credentialTurn i (jobs i) turn (p.calls i) p.stores).map fun (call, stores) =>
      p.update i call stores
  | .rotate vault => some { p with stores := { p.stores with vault } }
  | .issue accepted => some { p with stores := { p.stores with accepted } }

end CredentialProcess

/-- How a turn goes, case by case: the call and the stores after it. -/
inductive TurnTaken (i : ι) (job : Job) (st : CredentialStores ι) :
    CredentialTurn → CredentialCall ι → CredentialCall ι → CredentialStores ι → Prop
  | cachedClient {now : ℤ} {account : NsAccountConfig} {secrets : List String}
      (hjob : job = .netsuite account) (h : st.clients account.accountId = some secrets) :
      TurnTaken i job st (.made now) .idle (.sent (.signature secrets)) st
  | made {now : ℤ} (h : ∀ account, job = .netsuite account → st.clients account.accountId = none) :
      TurnTaken i job st (.made now) .idle
        (.reading (job.refs.map fun ref => (ref, st.provider.getSecret now ref))) st
  | vaultAnswered {k : ℕ} {ref : String} {reads : List (String × SecretRead)}
      (h : reads[k]? = some (ref, .asked)) :
      TurnTaken i job st (.vaultAnswered k) (.reading reads)
        (.reading (reads.set k (ref, .answered (st.vault ref)))) st
  | secretArrived {k : ℕ} {now : ℤ} {ref : String} {value : Option String}
      {reads : List (String × SecretRead)} (h : reads[k]? = some (ref, .answered value)) :
      TurnTaken i job st (.secretArrived k now) (.reading reads)
        (.reading (reads.set k (ref, (st.provider.receive now ref value).1)))
        { st with provider := (st.provider.receive now ref value).2 }
  | webhook {now : ℤ} {reads : List (String × SecretRead)} {secretRef : String}
      (hjob : job = .webhook secretRef) :
      TurnTaken i job st (.hydrated now) (.reading reads) .done st
  | client {now : ℤ} {reads : List (String × SecretRead)} {account : NsAccountConfig}
      {secrets : List String} (hjob : job = .netsuite account)
      (h : (reads.mapM fun read => read.2.value?) = some secrets) :
      TurnTaken i job st (.hydrated now) (.reading reads) (.sent (.signature secrets))
        { st with clients := Function.update st.clients account.accountId (some secrets) }
  | cachedToken {now : ℤ} {reads : List (String × SecretRead)} {connection : ShopifyConnection}
      {token : CachedToken} (hjob : job = .shopify connection)
      (h : st.tokens.getAccessToken connection.shopifyStore now = .cached token) :
      TurnTaken i job st (.hydrated now) (.reading reads) (.sent (.token token.accessToken)) st
  | existing {now : ℤ} {reads : List (String × SecretRead)} {connection : ShopifyConnection}
      {exchange : ι} (hjob : job = .shopify connection)
      (h : st.tokens.getAccessToken connection.shopifyStore now = .existing exchange) :
      TurnTaken i job st (.hydrated now) (.reading reads) (.awaiting exchange) st
  | fetch {now : ℤ} {reads : List (String × SecretRead)} {connection : ShopifyConnection}
      {secrets : List String} (hjob : job = .shopify connection)
      (h : (reads.mapM fun read => read.2.value?) = some secrets)
      (hsource : st.tokens.getAccessToken connection.shopifyStore now = .fetch) :
      TurnTaken i job st (.hydrated now) (.reading reads) (.awaiting i)
        ({ st with tokens := st.tokens.fetching connection.shopifyStore i }.setExchange i { secrets })
  | unhydrated {reads : List (String × SecretRead)} :
      TurnTaken i job st .unhydrated (.reading reads) (.failed none) st
  | exchanged {response : TokenResponse} {secrets : List String}
      (h : st.exchanges i = some { secrets }) :
      TurnTaken i job st (.exchanged response) (.awaiting i) (.awaiting i)
        (st.setExchange i { secrets, response := some response })
  | fetched {now : ℤ} {connection : ShopifyConnection} {secrets : List String}
      {response : TokenResponse} {token : CachedToken} (hjob : job = .shopify connection)
      (h : st.exchanges i = some { secrets, response := some response })
      (hresult : fetchedToken now response = .ok token) :
      TurnTaken i job st (.fetched now) (.awaiting i) (.sent (.token token.accessToken))
        ({ st with tokens := st.tokens.fetched connection.shopifyStore (.ok token) }.setExchange i
          { secrets, response := some response, result := some (.ok token) })
  | notFetched {now : ℤ} {connection : ShopifyConnection} {secrets : List String}
      {response : TokenResponse} {status : Option ℕ} (hjob : job = .shopify connection)
      (h : st.exchanges i = some { secrets, response := some response })
      (hresult : fetchedToken now response = .error status) :
      TurnTaken i job st (.fetched now) (.awaiting i) (.failed status)
        ({ st with tokens := st.tokens.fetched connection.shopifyStore (.error status) }.setExchange i
          { secrets, response := some response, result := some (.error status) })
  | resumed {exchange : ι} {x : Exchange} {token : CachedToken}
      (h : st.exchanges exchange = some x) (hresult : x.result = some (.ok token)) :
      TurnTaken i job st .resumed (.awaiting exchange) (.sent (.token token.accessToken)) st
  | notResumed {exchange : ι} {status : Option ℕ} :
      TurnTaken i job st .resumed (.awaiting exchange) (.failed status) st
  | responded {authorization : Authorization} {status : ℕ} :
      TurnTaken i job st (.responded status) (.sent authorization)
        (.responded authorization status) st

/-- Every turn is one of the cases. -/
theorem turnTaken {i : ι} {job : Job} {turn : CredentialTurn} {call call' : CredentialCall ι}
    {st st' : CredentialStores ι} (h : credentialTurn i job turn call st = some (call', st')) :
    TurnTaken i job st turn call call' st' := by
  unfold credentialTurn at h
  split at h
  · dsimp only at h
    split at h
    · next account =>
      split at h
      · next hclient =>
        obtain ⟨rfl, rfl⟩ := Prod.mk.inj (Option.some.inj h)
        exact .cachedClient rfl hclient
      · next hclient =>
        obtain ⟨rfl, rfl⟩ := Prod.mk.inj (Option.some.inj h)
        refine .made fun account' heq => ?_
        cases heq
        exact hclient
    · next hjob =>
      obtain ⟨rfl, rfl⟩ := Prod.mk.inj (Option.some.inj h)
      exact .made fun account heq => absurd heq (hjob account)
  · split at h
    · next hread =>
      obtain ⟨rfl, rfl⟩ := Prod.mk.inj (Option.some.inj h)
      exact .vaultAnswered hread
    · cases h
  · split at h
    · next hread =>
      obtain ⟨rfl, rfl⟩ := Prod.mk.inj (Option.some.inj h)
      exact .secretArrived hread
    · cases h
  · split at h
    · cases h
    · next secrets hreads =>
      split at h
      · obtain ⟨rfl, rfl⟩ := Prod.mk.inj (Option.some.inj h)
        exact .webhook rfl
      · obtain ⟨rfl, rfl⟩ := Prod.mk.inj (Option.some.inj h)
        exact .client rfl hreads
      · split at h
        · next hsource =>
          obtain ⟨rfl, rfl⟩ := Prod.mk.inj (Option.some.inj h)
          exact .cachedToken rfl hsource
        · next hsource =>
          obtain ⟨rfl, rfl⟩ := Prod.mk.inj (Option.some.inj h)
          exact .existing rfl hsource
        · next hsource =>
          obtain ⟨rfl, rfl⟩ := Prod.mk.inj (Option.some.inj h)
          exact .fetch rfl hreads hsource
  · split at h
    · obtain ⟨rfl, rfl⟩ := Prod.mk.inj (Option.some.inj h)
      exact .unhydrated
    · cases h
  · split at h
    · next hexchange =>
      split at h
      · next hown =>
        subst hown
        obtain ⟨rfl, rfl⟩ := Prod.mk.inj (Option.some.inj h)
        exact .exchanged hexchange
      · cases h
    · cases h
  · split at h
    · next hexchange =>
      split at h
      · next hown =>
        subst hown
        obtain ⟨rfl, rfl⟩ := Prod.mk.inj (Option.some.inj h)
        split
        · next hresult =>
          rw [hresult]
          exact .fetched rfl hexchange hresult
        · next hresult =>
          rw [hresult]
          exact .notFetched rfl hexchange hresult
      · cases h
    · cases h
  · split at h
    · next hexchange =>
      split at h
      · cases h
      · split at h
        · obtain ⟨rfl, rfl⟩ := Prod.mk.inj (Option.some.inj h)
          exact .resumed hexchange rfl
        · obtain ⟨rfl, rfl⟩ := Prod.mk.inj (Option.some.inj h)
          exact .notResumed
    · cases h
  · obtain ⟨rfl, rfl⟩ := Prod.mk.inj (Option.some.inj h)
    exact .responded
  · cases h

end DpIntegrator
