import DpIntegrator.Core.Types
import DpIntegrator.Credentials.Caches
import DpIntegrator.Governor.Ceiling
import DpIntegrator.NetSuite.SdkGateway

/-!
# Governed clients

How a deployment wires its NetSuite accounts to the governor. The accounts come from the
connections; the factory makes an SDK client for each account when it is first called, and a
client takes its slots under the account it was made for. A call of the gateway is cut at its
awaits, as a governed request is: between two of them it runs without interruption. Seen from
the store, every run of a gateway is a run of governed requests.
-/

namespace DpIntegrator

/-! ## Accounts -/

/-- The config of an account. The names of its secrets bear the account as host names do. -/
def NsAccountConfig.ofId (accountId : String) : NsAccountConfig :=
  let sanitized := normalizedAccount accountId
  { accountId
    credentials :=
      { consumerKeyRef := "ns-" ++ sanitized ++ "-consumer-key"
        consumerSecretRef := "ns-" ++ sanitized ++ "-consumer-secret"
        tokenKeyRef := "ns-" ++ sanitized ++ "-token-id"
        tokenSecretRef := "ns-" ++ sanitized ++ "-token-secret" } }

/-- An account id that is not a placeholder. -/
def IsRealAccountId (id : String) : Prop := id ≠ "" ∧ id ≠ "pending"

instance : DecidablePred IsRealAccountId := fun _ => inferInstanceAs (Decidable (_ ∧ _))

/-- The real account ids of the connections, each once. -/
def realAccountIds (connections : List Connection) : List String :=
  ((connections.map Connection.nsAccountId).filter IsRealAccountId).eraseDups

theorem mem_realAccountIds {connections : List Connection} {id : String} :
    id ∈ realAccountIds connections ↔
      (∃ c ∈ connections, c.nsAccountId = id) ∧ IsRealAccountId id := by
  unfold realAccountIds
  rw [List.mem_eraseDups, List.mem_filter, List.mem_map, decide_eq_true_iff]

/-- The accounts of a gateway: each stands under its own id. -/
structure AccountTable where
  accounts : Js.Map String NsAccountConfig
  keyed : ∀ id account, accounts.get id = some account → account.accountId = id

namespace AccountTable

def empty : AccountTable where
  accounts := .empty
  keyed id account h := by cases h

/-- Enter an account. -/
def add (table : AccountTable) (accountId : String) : AccountTable where
  accounts := table.accounts.set accountId (.ofId accountId)
  keyed id account h := by
    rw [Js.Map.get_set] at h
    by_cases hid : id = accountId
    · rw [hid, Function.update_self] at h
      obtain rfl := Option.some.inj h
      exact hid.symm
    · rw [Function.update_of_ne hid] at h
      exact table.keyed id account h

theorem get_foldl_add (ids : List String) (table : AccountTable) (id : String) :
    (ids.foldl add table).accounts.get id =
      if id ∈ ids then some (.ofId id) else table.accounts.get id := by
  induction ids generalizing table with
  | nil => rfl
  | cons accountId ids ih =>
    have hadd : (table.add accountId).accounts.get =
        Function.update table.accounts.get accountId (some (.ofId accountId)) := Js.Map.get_set ..
    rw [List.foldl_cons, ih, hadd]
    by_cases hid : id = accountId
    · simp [hid]
    · simp [hid]

end AccountTable

/-! ## Clients -/

structure OAuthConfig where
  consumerKey : String
  consumerSecret : String
  tokenKey : String
  tokenSecret : String
  realm : String

/-- `hydrateOAuth`, with the secrets that were read. -/
def NsAccountConfig.hydrateOAuth (account : NsAccountConfig) (getSecret : String → String) :
    OAuthConfig where
  consumerKey := getSecret account.credentials.consumerKeyRef
  consumerSecret := getSecret account.credentials.consumerSecretRef
  tokenKey := getSecret account.credentials.tokenKeyRef
  tokenSecret := getSecret account.credentials.tokenSecretRef
  realm := account.accountId

/-- An SDK client, with what its governor closes over. -/
structure NetSuiteClient where
  auth : OAuthConfig
  accountId : String
  governor : GovernorArgs

/-- `NetSuiteClientFactory`: the client of an account takes its slots under that account. -/
structure NetSuiteClientFactory where
  governorConfig : GovernorConfig
  cache : Js.Map String NetSuiteClient
  governed : ∀ id client, cache.get id = some client →
    client.governor = { nsAccountId := id, config := governorConfig }

namespace NetSuiteClientFactory

/-- The constructor. -/
def new (governorConfig : GovernorConfig) : NetSuiteClientFactory where
  governorConfig := governorConfig
  cache := .empty
  governed id client h := by cases h

/-- The client that `get` makes. -/
def makeClient (factory : NetSuiteClientFactory) (account : NsAccountConfig)
    (getSecret : String → String) : NetSuiteClient where
  auth := account.hydrateOAuth getSecret
  accountId := account.accountId
  governor := { nsAccountId := account.accountId, config := factory.governorConfig }

/-- Keep the client of an account. -/
def set (factory : NetSuiteClientFactory) (account : NsAccountConfig)
    (getSecret : String → String) : NetSuiteClientFactory where
  governorConfig := factory.governorConfig
  cache := factory.cache.set account.accountId (factory.makeClient account getSecret)
  governed id client h := by
    rw [Js.Map.get_set] at h
    by_cases hid : id = account.accountId
    · rw [hid, Function.update_self] at h
      obtain rfl := Option.some.inj h
      rw [hid]
      rfl
    · rw [Function.update_of_ne hid] at h
      exact factory.governed id client h

end NetSuiteClientFactory

/-! ## The gateway of a deployment -/

/-- The slots of one account. -/
def perAccountCeiling : ℕ := 10

/-- What `buildNetSuiteGateway` returns. -/
inductive NetSuiteGateway
  /-- `FakeNetSuiteGateway`, which calls no one. -/
  | fake
  | sdk (accounts : AccountTable) (factory : NetSuiteClientFactory)
      (governorStore : SharedInMemoryGovernorStore perAccountCeiling)

def buildNetSuiteGateway (connections : List Connection) : Except String NetSuiteGateway := do
  if realAccountIds connections = [] then
    return .fake
  let accounts := (realAccountIds connections).foldl AccountTable.add .empty
  let governorStore ← SharedInMemoryGovernorStore.new perAccountCeiling
  return .sdk accounts (.new {}) governorStore

/-- What a gateway consists of that calls NetSuite. -/
theorem buildNetSuiteGateway_eq_sdk {connections : List Connection} {accounts : AccountTable}
    {factory : NetSuiteClientFactory}
    {governorStore : SharedInMemoryGovernorStore perAccountCeiling} :
    buildNetSuiteGateway connections = .ok (.sdk accounts factory governorStore) ↔
      realAccountIds connections ≠ [] ∧
        accounts = (realAccountIds connections).foldl AccountTable.add .empty ∧
        factory = .new {} ∧
        SharedInMemoryGovernorStore.new perAccountCeiling = .ok governorStore := by
  unfold buildNetSuiteGateway
  by_cases hids : realAccountIds connections = []
  · rw [if_pos hids]
    constructor
    · intro h
      cases h
    · rintro ⟨hne, _⟩
      exact absurd hids hne
  · rw [if_neg hids]
    cases hstore : SharedInMemoryGovernorStore.new perAccountCeiling with
    | error message =>
      constructor
      · intro h
        cases h
      · rintro ⟨_, _, _, h⟩
        cases h
    | ok store =>
      constructor
      · intro h
        cases h
        exact ⟨hids, rfl, rfl, rfl⟩
      · rintro ⟨_, rfl, rfl, h⟩
        cases h
        rfl

/-- The accounts that the gateway of a deployment knows. -/
theorem get_accounts_of_build {connections : List Connection} {accounts : AccountTable}
    {factory : NetSuiteClientFactory}
    {governorStore : SharedInMemoryGovernorStore perAccountCeiling}
    (hbuild : buildNetSuiteGateway connections = .ok (.sdk accounts factory governorStore))
    (id : String) :
    accounts.accounts.get id =
      if id ∈ realAccountIds connections then some (.ofId id) else none := by
  obtain ⟨_, rfl, _⟩ := buildNetSuiteGateway_eq_sdk.mp hbuild
  exact AccountTable.get_foldl_add ..

/-! ## Calls of a gateway -/

/-- A call of the gateway, at one of its awaits. `ρ` is what a governed request settles with. -/
inductive GatewayCall (ρ : Type)
  /-- Not made yet. -/
  | idle
  /-- Rejected: the gateway has no such account. -/
  | unknownAccount (message : String)
  /-- At the `Promise.all` of `hydrateOAuth`. -/
  | hydrating (account : NsAccountConfig)
  /-- Rejected: a secret could not be read. -/
  | unhydrated
  /-- Its request goes through the middleware of a client. -/
  | governed (client : NetSuiteClient) (request : Request ρ)

/-- What lets a call go on. -/
inductive GatewayTurn (ρ : Type)
  /-- The call is made. -/
  | called
  /-- All secrets have arrived. -/
  | hydrated (getSecret : String → String)
  /-- A secret was refused. -/
  | unhydrated
  /-- The request runs on. -/
  | governed (turn : Turn ρ)

/-- What all calls of a gateway share. -/
structure GatewayShared (ceiling : ℕ) where
  factory : NetSuiteClientFactory
  governed : Shared ceiling

variable {ceiling : ℕ} {ρ ι : Type}

/-- How a call for an account goes on, if it can at that turn: `resolveAccount`, then `get` of the
factory, then the request. -/
def gatewayTurn (accounts : AccountTable) (nsAccountId : String) :
    GatewayTurn ρ → GatewayCall ρ → GatewayShared ceiling →
      Option (GatewayCall ρ × GatewayShared ceiling)
  | .called, .idle, shared =>
    match accounts.accounts.get nsAccountId with
    | none =>
      some (.unknownAccount ("SdkNetSuiteGateway: unknown NS account '" ++ nsAccountId ++ "'"),
        shared)
    | some account =>
      match shared.factory.cache.get account.accountId with
      | some client => some (.governed client .idle, shared)
      | none => some (.hydrating account, shared)
  | .hydrated getSecret, .hydrating account, shared =>
    some (.governed (shared.factory.makeClient account getSecret) .idle,
      { shared with factory := shared.factory.set account getSecret })
  | .unhydrated, .hydrating _, shared => some (.unhydrated, shared)
  | .governed turn, .governed client request, shared =>
    (governorMiddleware client.governor turn request shared.governed).map
      fun (request, governed) => (.governed client request, { shared with governed })
  | _, _, _ => none

/-- The governed request of a call. -/
def GatewayCall.request : GatewayCall ρ → Request ρ
  | governed _ request => request
  | _ => .idle

/-- The client that a call was given. -/
def GatewayCall.client? : GatewayCall ρ → Option NetSuiteClient
  | governed client _ => some client
  | _ => none

/-- What holds of a call at each await: the gateway knows its account, and its client takes slots
under the account as the call spells it. -/
def GatewayCall.Own (accounts : AccountTable) (args : GovernorArgs) : GatewayCall ρ → Prop
  | hydrating account => accounts.accounts.get args.nsAccountId = some account
  | governed client _ =>
    (∃ account, accounts.accounts.get args.nsAccountId = some account) ∧ client.governor = args
  | _ => True

/-- What a turn does to its call: the call stays its account's own, and its request stays where
it is or takes a turn of the middleware. -/
structure GatewayTurnSpec (accounts : AccountTable) (args : GovernorArgs) (call : GatewayCall ρ)
    (shared : GatewayShared ceiling) (call' : GatewayCall ρ) (shared' : GatewayShared ceiling) :
    Prop where
  own : call'.Own accounts args
  config : shared'.factory.governorConfig = args.config
  request : (call'.request = call.request ∧ shared'.governed = shared.governed) ∨
    ∃ turn, governorMiddleware args turn call.request shared.governed =
      some (call'.request, shared'.governed)

theorem gatewayTurn_spec {accounts : AccountTable} {args : GovernorArgs} {turn : GatewayTurn ρ}
    {call call' : GatewayCall ρ} {shared shared' : GatewayShared ceiling}
    (h : gatewayTurn accounts args.nsAccountId turn call shared = some (call', shared'))
    (hown : call.Own accounts args) (hconfig : shared.factory.governorConfig = args.config) :
    GatewayTurnSpec accounts args call shared call' shared' := by
  unfold gatewayTurn at h
  split at h
  · -- called
    split at h
    · cases h
      exact ⟨trivial, hconfig, .inl ⟨rfl, rfl⟩⟩
    · next account haccount =>
      have hid : account.accountId = args.nsAccountId := accounts.keyed _ _ haccount
      split at h
      · next client hclient =>
        cases h
        have hgoverned := shared.factory.governed _ _ hclient
        rw [hid, hconfig] at hgoverned
        exact ⟨⟨⟨account, haccount⟩, hgoverned⟩, hconfig, .inl ⟨rfl, rfl⟩⟩
      · cases h
        exact ⟨haccount, hconfig, .inl ⟨rfl, rfl⟩⟩
  · next getSecret account => -- hydrated
    cases h
    have hid : account.accountId = args.nsAccountId := accounts.keyed _ _ hown
    refine ⟨⟨⟨account, hown⟩, ?_⟩, hconfig, .inl ⟨rfl, rfl⟩⟩
    unfold NetSuiteClientFactory.makeClient
    rw [hid, hconfig]
  · -- unhydrated
    cases h
    exact ⟨trivial, hconfig, .inl ⟨rfl, rfl⟩⟩
  · next turn client request => -- governed
    obtain ⟨haccount, hgovernor⟩ := hown
    obtain ⟨⟨request', governed⟩, hturn, heq⟩ := Option.map_eq_some_iff.mp h
    cases heq
    rw [hgovernor] at hturn
    exact ⟨⟨haccount, hgovernor⟩, hconfig, .inr ⟨turn, hturn⟩⟩
  · cases h

/-! ## Runs of a gateway -/

/-- A gateway with its calls. -/
structure GatewayProcess (ι ρ : Type) (ceiling : ℕ) where
  shared : GatewayShared ceiling
  calls : ι → GatewayCall ρ

namespace GatewayProcess

/-- A gateway that was not called yet. -/
def start (factory : NetSuiteClientFactory) (store : SharedInMemoryGovernorStore ceiling)
    (holderSeq : ℕ) : GatewayProcess ι ρ ceiling where
  shared := { factory, governed := { store, holderSeq } }
  calls _ := .idle

/-- Its governed requests and what they share. -/
def process (g : GatewayProcess ι ρ ceiling) : Process ι ρ ceiling where
  shared := g.shared.governed
  requests i := (g.calls i).request

/-- What holds in every state of a gateway: its calls are their accounts' own. -/
structure Governed (accounts : AccountTable) (args : ι → GovernorArgs)
    (g : GatewayProcess ι ρ ceiling) : Prop where
  own : ∀ i, (g.calls i).Own accounts (args i)
  config : ∀ i, g.shared.factory.governorConfig = (args i).config

variable {accounts : AccountTable} {args : ι → GovernorArgs} {g g' : GatewayProcess ι ρ ceiling}

theorem governed_start {factory : NetSuiteClientFactory}
    (hconfig : ∀ i, factory.governorConfig = (args i).config)
    (store : SharedInMemoryGovernorStore ceiling) (holderSeq : ℕ) :
    Governed accounts args (start factory store holderSeq : GatewayProcess ι ρ ceiling) where
  own _ := trivial
  config := hconfig

variable [DecidableEq ι]

/-- One turn of call `i`. -/
def step (accounts : AccountTable) (nsAccountId : ι → String) (i : ι) (turn : GatewayTurn ρ)
    (g : GatewayProcess ι ρ ceiling) : Option (GatewayProcess ι ρ ceiling) :=
  (gatewayTurn accounts (nsAccountId i) turn (g.calls i) g.shared).map fun (call, shared) =>
    { shared, calls := Function.update g.calls i call }

/-- Any number of turns, of any calls in any order. -/
def run (accounts : AccountTable) (nsAccountId : ι → String) :
    List (ι × GatewayTurn ρ) → GatewayProcess ι ρ ceiling → Option (GatewayProcess ι ρ ceiling)
  | [], g => some g
  | (i, turn) :: turns, g =>
    (g.step accounts nsAccountId i turn).bind (run accounts nsAccountId turns)

theorem step_eq_some {nsAccountId : ι → String} {i : ι} {turn : GatewayTurn ρ} :
    g.step accounts nsAccountId i turn = some g' ↔
      ∃ call, gatewayTurn accounts (nsAccountId i) turn (g.calls i) g.shared =
          some (call, g'.shared) ∧ g'.calls = Function.update g.calls i call := by
  unfold step
  rw [Option.map_eq_some_iff]
  constructor
  · rintro ⟨⟨call, shared⟩, hturn, rfl⟩
    exact ⟨call, hturn, rfl⟩
  · rintro ⟨call, hturn, hcalls⟩
    obtain ⟨shared, calls⟩ := g'
    cases hcalls
    exact ⟨(call, shared), hturn, rfl⟩

theorem run_append (nsAccountId : ι → String) (turns turns' : List (ι × GatewayTurn ρ))
    (g : GatewayProcess ι ρ ceiling) :
    g.run accounts nsAccountId (turns ++ turns') =
      (g.run accounts nsAccountId turns).bind (run accounts nsAccountId turns') := by
  induction turns generalizing g with
  | nil => rfl
  | cons entry turns ih =>
    change ((g.step accounts nsAccountId entry.1 entry.2).bind
      fun g' => g'.run accounts nsAccountId (turns ++ turns')) = _
    change _ = ((g.step accounts nsAccountId entry.1 entry.2).bind
      (run accounts nsAccountId turns)).bind _
    rw [Option.bind_assoc]
    congr 1
    funext g'
    exact ih g'

/-- Every turn of a gateway is one of its governed requests, or none. -/
theorem Governed.step {i : ι} {turn : GatewayTurn ρ} (h : g.Governed accounts args)
    (hstep : g.step accounts (fun j => (args j).nsAccountId) i turn = some g') :
    g'.Governed accounts args ∧
      (g'.process = g.process ∨ ∃ turn, g.process.step args i turn = some g'.process) := by
  obtain ⟨call, hturn, hcalls⟩ := step_eq_some.mp hstep
  obtain ⟨hown, hconfig, hrequest⟩ := gatewayTurn_spec hturn (h.own i) (h.config i)
  have hself : g'.calls i = call := by rw [hcalls, Function.update_self]
  have hother {j : ι} (hj : j ≠ i) : g'.calls j = g.calls j := by
    rw [hcalls, Function.update_of_ne hj]
  have hrequests : g'.process.requests = Function.update g.process.requests i call.request := by
    funext j
    by_cases hj : j = i
    · rw [hj, Function.update_self]
      change (g'.calls i).request = _
      rw [hself]
    · rw [Function.update_of_ne hj]
      change (g'.calls j).request = _
      rw [hother hj]
      rfl
  refine ⟨⟨?_, ?_⟩, ?_⟩
  · intro j
    by_cases hj : j = i
    · rw [hj, hself]
      exact hown
    · rw [hother hj]
      exact h.own j
  · intro j
    rw [hconfig, ← h.config i, h.config j]
  · rcases hrequest with ⟨hsame, hgoverned⟩ | ⟨turn', hmiddleware⟩
    · refine .inl ?_
      have hupdate : Function.update g.process.requests i call.request = g.process.requests := by
        rw [hsame]
        exact Function.update_eq_self i g.process.requests
      rw [hupdate] at hrequests
      change Process.mk g'.shared.governed g'.process.requests = _
      rw [hgoverned, hrequests]
      rfl
    · exact .inr ⟨turn', Process.step_eq_some.mpr ⟨call.request, hmiddleware, hrequests⟩⟩

/-- Every run of a gateway is a run of its governed requests. -/
theorem Governed.run {turns : List (ι × GatewayTurn ρ)} (h : g.Governed accounts args)
    (hrun : g.run accounts (fun j => (args j).nsAccountId) turns = some g') :
    g'.Governed accounts args ∧ ∃ turns', g.process.run args turns' = some g'.process := by
  induction turns generalizing g with
  | nil =>
    obtain rfl := Option.some.inj hrun
    exact ⟨h, [], rfl⟩
  | cons entry turns ih =>
    obtain ⟨g₁, hstep, hrest⟩ := Option.bind_eq_some_iff.mp hrun
    obtain ⟨hgoverned, hprocess⟩ := h.step hstep
    obtain ⟨hgoverned', turns', hrun'⟩ := ih hgoverned hrest
    refine ⟨hgoverned', ?_⟩
    rcases hprocess with hsame | ⟨turn, hturn⟩
    · exact ⟨turns', hsame ▸ hrun'⟩
    · refine ⟨(entry.1, turn) :: turns', ?_⟩
      change (g.process.step args entry.1 turn).bind _ = _
      rw [hturn]
      exact hrun'

/-! ## Letting calls through -/

/-- Some turns lead from the first state to the second. -/
def Reaches (accounts : AccountTable) (nsAccountId : ι → String)
    (g g' : GatewayProcess ι ρ ceiling) : Prop :=
  ∃ turns, g.run accounts nsAccountId turns = some g'

variable {nsAccountId : ι → String} {g'' : GatewayProcess ι ρ ceiling}

theorem Reaches.refl (g : GatewayProcess ι ρ ceiling) : g.Reaches accounts nsAccountId g :=
  ⟨[], rfl⟩

theorem Reaches.trans (h : g.Reaches accounts nsAccountId g')
    (h' : g'.Reaches accounts nsAccountId g'') : g.Reaches accounts nsAccountId g'' := by
  obtain ⟨turns, hrun⟩ := h
  obtain ⟨turns', hrun'⟩ := h'
  refine ⟨turns ++ turns', ?_⟩
  rw [run_append, hrun, Option.bind_some, hrun']

/-- One turn of call `i`. -/
theorem reaches_of_turn (turn : GatewayTurn ρ) {i : ι} {call : GatewayCall ρ}
    {shared : GatewayShared ceiling}
    (h : gatewayTurn accounts (nsAccountId i) turn (g.calls i) g.shared = some (call, shared)) :
    g.Reaches accounts nsAccountId { shared, calls := Function.update g.calls i call } := by
  refine ⟨[(i, turn)], ?_⟩
  have hstep : g.step accounts nsAccountId i turn =
      some { shared, calls := Function.update g.calls i call } :=
    step_eq_some.mpr ⟨call, h, rfl⟩
  change (g.step accounts nsAccountId i turn).bind _ = _
  rw [hstep]
  rfl

/-- One turn of the request of call `i`. -/
theorem reaches_of_governed (turn : Turn ρ) {i : ι} {client : NetSuiteClient}
    {request request' : Request ρ} {governed : Shared ceiling}
    (hcall : g.calls i = .governed client request)
    (h : governorMiddleware client.governor turn request g.shared.governed =
      some (request', governed)) :
    g.Reaches accounts nsAccountId
      { shared := { g.shared with governed }
        calls := Function.update g.calls i (.governed client request') } := by
  apply reaches_of_turn (.governed turn)
  rw [hcall]
  simp only [gatewayTurn, h, Option.map_some]

/-- A call for an account that the gateway knows is given the client of the account. -/
theorem reaches_client {i : ι} {account : NsAccountConfig} (hidle : g.calls i = .idle)
    (haccount : accounts.accounts.get (nsAccountId i) = some account) :
    ∃ client factory, client.governor.nsAccountId = nsAccountId i ∧
      g.Reaches accounts nsAccountId
        { shared := { g.shared with factory }
          calls := Function.update g.calls i (.governed client .idle) } := by
  have hid : account.accountId = nsAccountId i := accounts.keyed _ _ haccount
  cases hcached : g.shared.factory.cache.get account.accountId with
  | some client =>
    have hgoverned := g.shared.factory.governed _ _ hcached
    refine ⟨client, g.shared.factory, by rw [hgoverned, hid], ?_⟩
    apply reaches_of_turn .called
    rw [hidle]
    simp only [gatewayTurn, haccount, hcached]
  | none =>
    refine ⟨g.shared.factory.makeClient account fun _ => "",
      g.shared.factory.set account fun _ => "", hid, ?_⟩
    have hcalled : g.Reaches accounts nsAccountId
        { g with calls := Function.update g.calls i (.hydrating account) } := by
      apply reaches_of_turn .called
      rw [hidle]
      simp only [gatewayTurn, haccount, hcached]
    refine hcalled.trans ?_
    have hupdate : Function.update (Function.update g.calls i (.hydrating account)) i
        (.governed (g.shared.factory.makeClient account fun _ => "") .idle) =
        Function.update g.calls i
          (.governed (g.shared.factory.makeClient account fun _ => "") .idle) :=
      Function.update_idem ..
    rw [← hupdate]
    apply reaches_of_turn (.hydrated fun _ => "")
    change gatewayTurn accounts (nsAccountId i) _ (Function.update g.calls i _ i) _ = _
    rw [Function.update_self]
    rfl

/-- A request of an account that has room left takes a slot at its first attempt. -/
theorem made_of_room {args : GovernorArgs} {shared : Shared ceiling}
    (hroom : (shared.store.bucket args.nsAccountId).card < ceiling) :
    ∃ locals shared', governorMiddleware args (.made 0 0) (.idle : Request ρ) shared =
        some (.acquiring locals true, shared') ∧
      ∀ account, (shared'.store.bucket account).card ≤
        (shared.store.bucket account).card + if args.nsAccountId = account then 1 else 0 := by
  let locals :=
    Acquire.locals args.nsAccountId (newHolderId "ns" 0 shared.holderSeq).1 args.config 0
  let answer := shared.store.tryAcquire args.nsAccountId locals.holderId
  have hgot : answer.1 = true := by
    simp only [answer, SharedInMemoryGovernorStore.tryAcquire, dif_neg (Nat.not_le.mpr hroom)]
  have hbucket := shared.store.bucket_tryAcquire args.nsAccountId locals.holderId
  rw [if_pos hgot] at hbucket
  refine ⟨locals, { store := answer.2, holderSeq := shared.holderSeq + 1 }, ?_, ?_⟩
  · rw [← hgot]
    rfl
  · intro account
    change (answer.2.bucket account).card ≤ _
    rw [hbucket]
    by_cases haccount : args.nsAccountId = account
    · rw [← haccount, Function.update_self, if_pos rfl]
      exact Finset.card_insert_le ..
    · rw [Function.update_of_ne (Ne.symm haccount), if_neg haccount]
      omega

/-- A call that has not been made, for an account that the gateway knows and that has room left,
can be let through: its request executes, the other calls stay where they are, and only its
account has one slot less. -/
theorem reaches_executing {i : ι} {account : NsAccountConfig} (hidle : g.calls i = .idle)
    (haccount : accounts.accounts.get (nsAccountId i) = some account)
    (hroom : (g.shared.governed.store.bucket (nsAccountId i)).card < ceiling) :
    ∃ g', g.Reaches accounts nsAccountId g' ∧ (g'.calls i).request.IsExecuting ∧
      (∀ j, j ≠ i → g'.calls j = g.calls j) ∧
      ∀ account', (g'.shared.governed.store.bucket account').card ≤
        (g.shared.governed.store.bucket account').card +
          if nsAccountId i = account' then 1 else 0 := by
  obtain ⟨client, factory, hgovernor, hclient⟩ := reaches_client hidle haccount
  rw [← hgovernor] at hroom ⊢
  obtain ⟨locals, governed, hmade, hcard⟩ := made_of_room (ρ := ρ) hroom
  have hcall (request : Request ρ) :
      Function.update g.calls i (.governed client request) i = .governed client request :=
    Function.update_self ..
  have hupdate (request request' : Request ρ) :
      Function.update (Function.update g.calls i (.governed client request)) i
        (.governed client request') = Function.update g.calls i (.governed client request') :=
    Function.update_idem ..
  let at' (request : Request ρ) (governed : Shared ceiling) : GatewayProcess ι ρ ceiling :=
    { shared := { factory, governed }
      calls := Function.update g.calls i (.governed client request) }
  have hturn {request request' : Request ρ} {governed governed' : Shared ceiling} (turn : Turn ρ)
      (h : governorMiddleware client.governor turn request governed = some (request', governed')) :
      (at' request governed).Reaches accounts nsAccountId (at' request' governed') := by
    have hreaches : (at' request governed).Reaches accounts nsAccountId _ :=
      reaches_of_governed turn (hcall request) h
    simp only [at', hupdate] at hreaches ⊢
    exact hreaches
  let release : Release := { nsAccountId := locals.nsAccountId, holderId := locals.holderId }
  let metadata : GovernorMetadata :=
    { nsAccountId := client.governor.nsAccountId, governorHolderId := locals.holderId }
  refine ⟨at' (.executing release metadata) governed, ?_, ?_, ?_, hcard⟩
  · have h1 := hturn (.made 0 0) hmade
    have h2 := hturn (.answered 0)
      (show governorMiddleware client.governor _ (.acquiring locals true) governed =
        some (.acquired release, governed) from rfl)
    have h3 := hturn .admitted
      (show governorMiddleware client.governor _ (.acquired release) governed =
        some (.executing release metadata, governed) from rfl)
    exact hclient.trans (h1.trans (h2.trans h3))
  · change ((Function.update g.calls i (.governed client _) i).request).IsExecuting
    rw [hcall]
    trivial
  · intro j hj
    exact Function.update_of_ne hj ..

/-- Calls that have not been made can all be let through, one after the other, as long as each
account has room for those made for it. -/
theorem reaches_all_executing {is : List ι} (hnodup : is.Nodup)
    (hidle : ∀ i ∈ is, g.calls i = .idle)
    (hknown : ∀ i ∈ is, ∃ account, accounts.accounts.get (nsAccountId i) = some account)
    (hroom : ∀ account, (g.shared.governed.store.bucket account).card +
      is.countP (fun i => nsAccountId i = account) ≤ ceiling) :
    ∃ g', g.Reaches accounts nsAccountId g' ∧ (∀ i ∈ is, (g'.calls i).request.IsExecuting) ∧
      ∀ j, j ∉ is → g'.calls j = g.calls j := by
  induction is generalizing g with
  | nil => exact ⟨g, .refl g, by simp, fun _ _ => rfl⟩
  | cons i is ih =>
    rw [List.nodup_cons] at hnodup
    obtain ⟨account, haccount⟩ := hknown i List.mem_cons_self
    have hroom_i := hroom (nsAccountId i)
    rw [List.countP_cons, if_pos (by simp)] at hroom_i
    obtain ⟨g₁, hreaches, hexecuting, hother, hcard⟩ :=
      reaches_executing (hidle i List.mem_cons_self) haccount (by omega)
    have hidle' : ∀ j ∈ is, g₁.calls j = .idle := by
      intro j hj
      have hne : j ≠ i := fun heq => hnodup.1 (heq ▸ hj)
      rw [hother j hne]
      exact hidle j (List.mem_cons_of_mem i hj)
    have hroom' : ∀ account, (g₁.shared.governed.store.bucket account).card +
        is.countP (fun i => nsAccountId i = account) ≤ ceiling := by
      intro account'
      have hbefore := hroom account'
      have hafter := hcard account'
      rw [List.countP_cons] at hbefore
      simp only [decide_eq_true_eq] at hbefore
      omega
    obtain ⟨g', hreaches', hexecuting', hother'⟩ :=
      ih hnodup.2 hidle' (fun j hj => hknown j (List.mem_cons_of_mem i hj)) hroom'
    refine ⟨g', hreaches.trans hreaches', ?_, ?_⟩
    · intro j hj
      rcases List.mem_cons.mp hj with rfl | hj
      · rw [hother' j hnodup.1]
        exact hexecuting
      · exact hexecuting' j hj
    · intro j hj
      rw [List.mem_cons, not_or] at hj
      rw [hother' j hj.2, hother j hj.1]

end GatewayProcess

end DpIntegrator
