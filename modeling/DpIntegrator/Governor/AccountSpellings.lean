import DpIntegrator.Governor.Clients

/-!
# Accounts and their spellings

NetSuite does not tell `_` from `-` in an account id, nor capitals from small letters: the host
of a request is the normalized id. The budget is kept under the id as the connection spells it.
So one account has one budget exactly when no two connections spell it in two ways: then the
ceiling bounds what is in flight against its host, and otherwise each spelling has a ceiling of
its own.
-/

namespace DpIntegrator

/-- No account is spelled in two ways among the connections. -/
def SpelledOneWay (connections : List Connection) : Prop :=
  ∀ c ∈ connections, ∀ c' ∈ connections,
    IsRealAccountId c.nsAccountId → IsRealAccountId c'.nsAccountId →
    normalizedAccount c.nsAccountId = normalizedAccount c'.nsAccountId →
    c.nsAccountId = c'.nsAccountId

instance (connections : List Connection) : Decidable (SpelledOneWay connections) :=
  inferInstanceAs (Decidable (∀ c ∈ connections, ∀ c' ∈ connections, _))

theorem spelledOneWay_iff {connections : List Connection} :
    SpelledOneWay connections ↔ ∀ id ∈ realAccountIds connections,
      ∀ id' ∈ realAccountIds connections, normalizedAccount id = normalizedAccount id' →
        id = id' := by
  constructor
  · intro h id hid id' hid' hhost
    obtain ⟨⟨c, hc, rfl⟩, hreal⟩ := mem_realAccountIds.mp hid
    obtain ⟨⟨c', hc', rfl⟩, hreal'⟩ := mem_realAccountIds.mp hid'
    exact h c hc c' hc' hreal hreal' hhost
  · intro h c hc c' hc' hreal hreal' hhost
    exact h _ (mem_realAccountIds.mpr ⟨⟨c, hc, rfl⟩, hreal⟩) _
      (mem_realAccountIds.mpr ⟨⟨c', hc', rfl⟩, hreal'⟩) hhost

variable {ι ρ : Type} [DecidableEq ι]

/-- A state that the gateway of a deployment reaches, call `i` being one for `nsAccountId i`. -/
def ReachedWith (connections : List Connection) (nsAccountId : ι → String)
    (g : GatewayProcess ι ρ perAccountCeiling) : Prop :=
  ∃ accounts factory governorStore holderSeq turns,
    buildNetSuiteGateway connections = .ok (.sdk accounts factory governorStore) ∧
    (GatewayProcess.start factory governorStore holderSeq).run accounts nsAccountId turns = some g

/-- Requests to one host draw from one budget: in every state that any calls reach, their clients
take slots under one account. -/
def OneBudgetPerHost (connections : List Connection) : Prop :=
  ∀ (ι ρ : Type) [DecidableEq ι] (nsAccountId : ι → String)
    (g : GatewayProcess ι ρ perAccountCeiling), ReachedWith connections nsAccountId g →
    ∀ i j client client', (g.calls i).client? = some client →
      (g.calls j).client? = some client' →
      normalizedAccount (nsAccountId i) = normalizedAccount (nsAccountId j) →
      client.governor.nsAccountId = client'.governor.nsAccountId

/-- The ceiling bounds the requests that are in flight against any one host, in every state that
any calls reach. -/
def HostsWithinCeiling (connections : List Connection) : Prop :=
  ∀ (ι ρ : Type) [DecidableEq ι] (nsAccountId : ι → String)
    (g : GatewayProcess ι ρ perAccountCeiling), ReachedWith connections nsAccountId g →
    ∀ host, {i | normalizedAccount (nsAccountId i) = host ∧
      (g.calls i).request.IsExecuting}.encard ≤ (perAccountCeiling : ℕ∞)

/-! ## Every account in one spelling -/

section OneSpelling

variable {connections : List Connection} {nsAccountId : ι → String}
  {g : GatewayProcess ι ρ perAccountCeiling}

/-- What `governorMiddleware` closes over in the client of an account. -/
def governorArgs (nsAccountId : String) : GovernorArgs where
  nsAccountId := nsAccountId

/-- Clients take slots under the account as the call spells it, which a connection has. -/
theorem ReachedWith.governor_eq (h : ReachedWith connections nsAccountId g) {i : ι}
    {client : NetSuiteClient} (hclient : (g.calls i).client? = some client) :
    client.governor = governorArgs (nsAccountId i) ∧
      nsAccountId i ∈ realAccountIds connections := by
  obtain ⟨accounts, factory, store, holderSeq, turns, hbuild, hrun⟩ := h
  obtain ⟨_, _, rfl, _⟩ := buildNetSuiteGateway_eq_sdk.mp hbuild
  have hstart : GatewayProcess.Governed accounts (fun j => governorArgs (nsAccountId j))
      (GatewayProcess.start (.new {}) store holderSeq : GatewayProcess ι ρ perAccountCeiling) :=
    GatewayProcess.governed_start (fun _ => rfl) store holderSeq
  obtain ⟨hgoverned, _⟩ := hstart.run hrun
  have hown := hgoverned.own i
  generalize g.calls i = call at hclient hown
  cases call with
  | governed client' request =>
    obtain rfl := Option.some.inj hclient
    obtain ⟨⟨account, haccount⟩, hgovernor⟩ := hown
    refine ⟨hgovernor, ?_⟩
    by_contra hmem
    change accounts.accounts.get (nsAccountId i) = some account at haccount
    rw [get_accounts_of_build hbuild, if_neg hmem] at haccount
    cases haccount
  | _ => cases hclient

/-- An account, as one connection spells it, has at most the ceiling in flight. -/
theorem ReachedWith.encard_executing_le (h : ReachedWith connections nsAccountId g)
    (account : String) :
    {i | nsAccountId i = account ∧ (g.calls i).request.IsExecuting}.encard ≤
      (perAccountCeiling : ℕ∞) := by
  obtain ⟨accounts, factory, store, holderSeq, turns, hbuild, hrun⟩ := h
  obtain ⟨_, _, rfl, hnew⟩ := buildNetSuiteGateway_eq_sdk.mp hbuild
  have hstart : GatewayProcess.Governed accounts (fun j => governorArgs (nsAccountId j))
      (GatewayProcess.start (.new {}) store holderSeq : GatewayProcess ι ρ perAccountCeiling) :=
    GatewayProcess.governed_start (fun _ => rfl) store holderSeq
  obtain ⟨_, turns', hrun'⟩ := hstart.run hrun
  have hconsistent := (Process.consistent_start hnew holderSeq).run hrun'
  exact hconsistent.encard_executing_le account

theorem client?_of_isExecuting {call : GatewayCall ρ} (h : call.request.IsExecuting) :
    ∃ client, call.client? = some client := by
  cases call with
  | governed client request => exact ⟨client, rfl⟩
  | _ => exact False.elim h

theorem oneBudgetPerHost_of_spelledOneWay (h : SpelledOneWay connections) :
    OneBudgetPerHost connections := by
  intro ι ρ _ nsAccountId g hreached i j client client' hclient hclient' hhost
  obtain ⟨hgovernor, hknown⟩ := hreached.governor_eq hclient
  obtain ⟨hgovernor', hknown'⟩ := hreached.governor_eq hclient'
  rw [hgovernor, hgovernor', spelledOneWay_iff.mp h _ hknown _ hknown' hhost]

theorem hostsWithinCeiling_of_spelledOneWay (h : SpelledOneWay connections) :
    HostsWithinCeiling connections := by
  intro ι ρ _ nsAccountId g hreached host
  by_cases hnone : {i | normalizedAccount (nsAccountId i) = host ∧
      (g.calls i).request.IsExecuting} = ∅
  · rw [hnone, Set.encard_empty]
    exact zero_le
  · obtain ⟨i, rfl, hexecuting⟩ := Set.nonempty_iff_ne_empty.mpr hnone
    obtain ⟨client, hclient⟩ := client?_of_isExecuting hexecuting
    obtain ⟨_, hknown⟩ := hreached.governor_eq hclient
    refine (Set.encard_le_encard ?_).trans (hreached.encard_executing_le (nsAccountId i))
    rintro j ⟨hhost, hexecuting'⟩
    obtain ⟨client', hclient'⟩ := client?_of_isExecuting hexecuting'
    obtain ⟨_, hknown'⟩ := hreached.governor_eq hclient'
    exact ⟨spelledOneWay_iff.mp h _ hknown' _ hknown hhost, hexecuting'⟩

end OneSpelling

/-! ## An account in two spellings -/

section TwoSpellings

variable {connections : List Connection}

/-- Calls for accounts of the connections can be made so that all their requests execute at once,
unless one account has more of them than the ceiling. -/
theorem exists_all_executing {nsAccountId : ι → String} {is : List ι} (hnodup : is.Nodup)
    (hnonempty : realAccountIds connections ≠ [])
    (hknown : ∀ i ∈ is, nsAccountId i ∈ realAccountIds connections)
    (hcount : ∀ account, is.countP (fun i => nsAccountId i = account) ≤ perAccountCeiling) :
    ∃ g : GatewayProcess ι ρ perAccountCeiling, ReachedWith connections nsAccountId g ∧
      ∀ i ∈ is, (g.calls i).request.IsExecuting := by
  obtain ⟨store, hstore⟩ : ∃ store, SharedInMemoryGovernorStore.new perAccountCeiling = .ok store :=
    ⟨_, rfl⟩
  have hbuild := buildNetSuiteGateway_eq_sdk.mpr ⟨hnonempty, rfl, rfl, hstore⟩
  let start : GatewayProcess ι ρ perAccountCeiling := .start (.new {}) store 0
  have hroom : ∀ account, (start.shared.governed.store.bucket account).card +
      is.countP (fun i => nsAccountId i = account) ≤ perAccountCeiling := by
    intro account
    change (store.bucket account).card + _ ≤ _
    rw [SharedInMemoryGovernorStore.bucket_new hstore, Finset.card_empty, Nat.zero_add]
    exact hcount account
  obtain ⟨g, ⟨turns, hrun⟩, hexecuting, _⟩ :=
    GatewayProcess.reaches_all_executing hnodup (fun _ _ => rfl) (g := start) (fun i hi =>
      ⟨_, (get_accounts_of_build hbuild _).trans (if_pos (hknown i hi))⟩) hroom
  exact ⟨g, ⟨_, _, _, _, turns, hbuild, hrun⟩, hexecuting⟩

/-- Two accounts of the connections with one host are one account, when their requests draw from
one budget. -/
theorem spelledOneWay_of_oneBudgetPerHost (h : OneBudgetPerHost connections) :
    SpelledOneWay connections := by
  rw [spelledOneWay_iff]
  intro id hid id' hid' hhost
  by_contra hne
  let nsAccountId (b : Bool) : String := if b then id else id'
  have hknown : ∀ b ∈ [true, false], nsAccountId b ∈ realAccountIds connections := by
    simp [nsAccountId, hid, hid']
  obtain ⟨g, hreached, hexecuting⟩ := exists_all_executing (ρ := Unit) (by decide)
    (List.ne_nil_of_mem hid) hknown fun account => List.countP_le_length.trans (by decide)
  obtain ⟨client, hclient⟩ := client?_of_isExecuting (hexecuting true (by decide))
  obtain ⟨client', hclient'⟩ := client?_of_isExecuting (hexecuting false (by decide))
  have hgovernor := (hreached.governor_eq hclient).1
  have hgovernor' := (hreached.governor_eq hclient').1
  have hsame := h Bool Unit nsAccountId g hreached true false client client' hclient hclient' hhost
  rw [hgovernor, hgovernor'] at hsame
  exact hne hsame

/-- Two accounts of the connections with one host are one account, when the ceiling bounds what is
in flight against it. -/
theorem spelledOneWay_of_hostsWithinCeiling (h : HostsWithinCeiling connections) :
    SpelledOneWay connections := by
  rw [spelledOneWay_iff]
  intro id hid id' hid' hhost
  by_contra hne
  -- A full ceiling of requests under the first spelling, and one more under the second.
  let nsAccountId (n : ℕ) : String := if n < perAccountCeiling then id else id'
  have hcount : ∀ account, (List.range (perAccountCeiling + 1)).countP
      (fun n => nsAccountId n = account) ≤ perAccountCeiling := by
    intro account
    have hlt : (List.range (perAccountCeiling + 1)).countP (fun n => nsAccountId n = account) <
        (List.range (perAccountCeiling + 1)).length := by
      rw [List.countP_lt_length_iff]
      by_cases haccount : id = account
      · refine ⟨perAccountCeiling, by simp, ?_⟩
        simp [nsAccountId, ← haccount, Ne.symm hne]
      · exact ⟨0, by simp, by simp [nsAccountId, perAccountCeiling, haccount]⟩
    rw [List.length_range] at hlt
    omega
  have hknown : ∀ n, nsAccountId n ∈ realAccountIds connections := by
    intro n
    by_cases hn : n < perAccountCeiling
    · simpa only [nsAccountId, if_pos hn] using hid
    · simpa only [nsAccountId, if_neg hn] using hid'
  have hhosts : ∀ n, normalizedAccount (nsAccountId n) = normalizedAccount id := by
    intro n
    by_cases hn : n < perAccountCeiling
    · simp only [nsAccountId, if_pos hn]
    · simp only [nsAccountId, if_neg hn, hhost]
  obtain ⟨g, hreached, hexecuting⟩ := exists_all_executing (ρ := Unit) List.nodup_range
    (List.ne_nil_of_mem hid) (fun n _ => hknown n) hcount
  have hsubset : ((Finset.range (perAccountCeiling + 1) : Finset ℕ) : Set ℕ) ⊆
      {n | normalizedAccount (nsAccountId n) = normalizedAccount id ∧
        (g.calls n).request.IsExecuting} := by
    intro n hn
    rw [Finset.mem_coe, Finset.mem_range] at hn
    exact ⟨hhosts n, hexecuting n (List.mem_range.mpr hn)⟩
  have hcard := (Set.encard_le_encard hsubset).trans (h ℕ Unit nsAccountId g hreached _)
  rw [Set.encard_coe_eq_coe_finsetCard, Finset.card_range] at hcard
  have hle : perAccountCeiling + 1 ≤ perAccountCeiling := by exact_mod_cast hcard
  omega

end TwoSpellings

/-- For every set of connections: requests to one host draw from one budget in every state that any
calls reach, exactly when no account is spelled in two ways; and exactly then the ceiling bounds
what is in flight against each host. -/
theorem one_budget_per_host_iff (connections : List Connection) :
    (OneBudgetPerHost connections ↔ SpelledOneWay connections) ∧
      (HostsWithinCeiling connections ↔ SpelledOneWay connections) :=
  ⟨⟨spelledOneWay_of_oneBudgetPerHost, oneBudgetPerHost_of_spelledOneWay⟩,
    ⟨spelledOneWay_of_hostsWithinCeiling, hostsWithinCeiling_of_spelledOneWay⟩⟩

namespace Spellings

/-- A connection to a sandbox account. -/
def connection (connectionId nsAccountId : String) : Connection where
  connectionId := connectionId
  environment := .sandbox
  shopifyStore := connectionId ++ ".myshopify.com"
  shopifyWebhookSecretRef := connectionId ++ "-webhook-secret"
  nsAccountId := nsAccountId
  nsSubsidiary := "1"
  baseCurrency := "USD"
  taxEngine := .suitetax
  orderTarget := .salesOrder
  enabled := true

/-- Two shops of one account. -/
def connections : List Connection :=
  [connection "shop-one" "11541804_SB1", connection "shop-two" "11541804-sb1"]

/-- Their requests draw from two budgets, and more than the ceiling are in flight at once. -/
theorem two_budgets : ¬OneBudgetPerHost connections ∧ ¬HostsWithinCeiling connections := by
  have htwice : ¬SpelledOneWay connections := by decide +kernel
  exact ⟨fun h => htwice (spelledOneWay_of_oneBudgetPerHost h),
    fun h => htwice (spelledOneWay_of_hostsWithinCeiling h)⟩

end Spellings

end DpIntegrator
