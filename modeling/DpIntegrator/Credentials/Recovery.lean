import DpIntegrator.Credentials.Rotation

/-!
# Recovery in place

A call that fails with 401 is given back to the queue because new secrets may let a later one
succeed. The next call of the service uses the new secrets exactly where no cache still serves it
anything that was made from others.
-/

namespace DpIntegrator

variable {ι : Type} [DecidableEq ι] {jobs : ι → Job} {issuedFor : String → List String}
  {start p last : CredentialProcess ι} {j : ι} {now : ℤ} {rest : List (CredentialStep ι)}

/-- The call was refused with 401, by the service or by its token endpoint. -/
def CredentialCall.Unauthorized : CredentialCall ι → Prop
  | .responded _ status => status = 401
  | .failed status => status = some 401
  | _ => False

/-- A call of the service was refused with 401, the vault was then given secrets that the service
accepts, and no call of the service was made since. -/
inductive Rotated (jobs : ι → Job) (issuedFor : String → List String) (start : CredentialProcess ι)
    (j : ι) : CredentialProcess ι → Prop
  | intro {before after : List (CredentialStep ι)} {vault : Vault} {i : ι}
      {refused p : CredentialProcess ι} (hbefore : CredentialRun jobs issuedFor start before refused)
      (hrefused : (refused.calls i).Unauthorized) (hservice : (jobs i).SameService (jobs j))
      (hvalid : (jobs j).secrets vault = (jobs j).secrets refused.stores.accepted)
      (hafter : CredentialRun jobs issuedFor refused (.rotate vault :: after) p)
      (hturns : ∀ step ∈ after, step.IsTurn)
      (hnext : ∀ k now, .turn k (.made now) ∈ after → ¬(jobs k).SameService (jobs j)) :
      Rotated jobs issuedFor start j p

/-- From when call `j` is made in `p`, it uses no secrets but those of the vault, which the service
accepts. -/
def UsesNewSecrets (jobs : ι → Job) (issuedFor : String → List String) (p : CredentialProcess ι)
    (j : ι) (now : ℤ) (rest : List (CredentialStep ι)) : Prop :=
  ∀ turns q, turns <+: rest → CredentialRun jobs issuedFor p (.turn j (.made now) :: turns) q →
    ∀ secrets, q.secretsOf issuedFor j = some secrets →
      (jobs j).secrets q.stores.vault = some secrets ∧
        (jobs j).secrets q.stores.accepted = some secrets

/-- Nothing that was made from other secrets is served to call `j`: no client when it is made, and
no token, exchange or secret when it picks its credentials. -/
structure ServesNewSecrets (jobs : ι → Job) (issuedFor : String → List String)
    (p : CredentialProcess ι) (j : ι) (now : ℤ) (rest : List (CredentialStep ι)) : Prop where
  client : ∀ account secrets, jobs j = .netsuite account →
    p.stores.clients account.accountId = some secrets →
    (jobs j).secrets p.stores.vault = some secrets
  picks : ∀ turns now' q, turns ++ [.turn j (.hydrated now')] <+: rest →
    CredentialRun jobs issuedFor p (.turn j (.made now) :: turns) q →
    PicksNewSecrets jobs issuedFor p j now q now'

/-- The services accept what the vault holds after the rotation. -/
theorem Rotated.secrets_eq (h : Rotated jobs issuedFor start j p) :
    (jobs j).secrets p.stores.vault = (jobs j).secrets p.stores.accepted := by
  obtain @⟨before, after, vault, i, refused, p, _, _, _, hvalid, hafter, hturns, _⟩ := h
  cases hafter with
  | cons _ hstep hrest =>
    cases hstep
    have hkept : ∀ (after : List (CredentialStep ι)) (q r : CredentialProcess ι),
        (∀ step ∈ after, step.IsTurn) → CredentialRun jobs issuedFor q after r →
        r.stores.vault = q.stores.vault ∧ r.stores.accepted = q.stores.accepted := by
      intro after q r hturns hrun
      induction hrun with
      | nil => exact ⟨rfl, rfl⟩
      | @cons q q₁ r step steps _ hstep _ ih =>
        obtain ⟨hvault, haccepted⟩ :=
          ih fun step hmem => hturns step (List.mem_cons_of_mem _ hmem)
        have hturn := hturns _ (List.mem_cons_self ..)
        obtain ⟨i, turn, call, st, rfl, rfl, htaken⟩ | ⟨_, rfl, _⟩ | ⟨_, rfl, _⟩ :=
          CredentialProcess.step_cases hstep
        · obtain ⟨hvault', haccepted'⟩ := htaken.vault_eq
          exact ⟨hvault.trans hvault', haccepted.trans haccepted'⟩
        · cases hturn
        · cases hturn
    obtain ⟨hvault, haccepted⟩ := hkept _ _ _ hturns hrest
    rw [hvault, haccepted]
    exact hvalid

theorem Rotated.consistent {vault accepted : Vault} {ttlMs refreshBufferMs : ℤ}
    (h : Rotated jobs issuedFor (.start vault accepted ttlMs refreshBufferMs) j p) :
    p.Consistent issuedFor := by
  obtain ⟨hbefore, _, _, _, hafter, _, _⟩ := h
  exact ((consistent_start ..).of_run hbefore).of_run hafter

/-- Only calls of Shopify and NetSuite are refused. -/
theorem Rotated.not_webhook (h : Rotated jobs issuedFor start j p) (ref : String) :
    jobs j ≠ .webhook ref := by
  obtain @⟨_, _, _, i, _, _, _, _, hservice, _, _, _, _⟩ := h
  intro hjob
  rw [hjob] at hservice
  cases hi : jobs i <;> simp [hi, Job.SameService] at hservice

/-- A call that is made with a cached client uses that client's secrets. -/
theorem client_iff {q : CredentialProcess ι}
    (hstep : p.step jobs (.turn j (.made now)) = some q) :
    (∀ secrets, q.secretsOf issuedFor j = some secrets →
        (jobs j).secrets p.stores.vault = some secrets) ↔
      ∀ account secrets, jobs j = .netsuite account →
        p.stores.clients account.accountId = some secrets →
        (jobs j).secrets p.stores.vault = some secrets := by
  obtain ⟨i, turn, call, st, hturn, rfl, htaken⟩ | ⟨_, heq, _⟩ | ⟨_, heq, _⟩ :=
    CredentialProcess.step_cases hstep
  · cases hturn
    unfold CredentialProcess.secretsOf
    rw [CredentialProcess.update_calls_self]
    generalize p.calls j = call' at htaken
    cases htaken with
    | @cachedClient _ account secrets hjob hclient =>
      constructor
      · intro h account' secrets' hjob' hclient'
        rw [hjob] at hjob'
        cases hjob'
        rw [hclient] at hclient'
        cases hclient'
        exact h _ rfl
      · rintro h secrets' heq
        cases heq
        exact h _ _ hjob hclient
    | made hnone =>
      constructor
      · intro _ account secrets hjob hclient
        rw [hnone account hjob] at hclient
        cases hclient
      · intro _ secrets heq
        cases heq
  · cases heq
  · cases heq

theorem step_made_of_client {account : NsAccountConfig} {secrets : List String}
    (hidle : p.calls j = .idle) (hjob : jobs j = .netsuite account)
    (hclient : p.stores.clients account.accountId = some secrets) :
    p.step jobs (.turn j (.made now)) =
      some (p.update j (.sent (.signature secrets)) p.stores) := by
  unfold CredentialProcess.step credentialTurn
  dsimp only
  rw [hidle, hjob]
  dsimp only
  rw [hclient]
  rfl

/-- The next call after a rotation recovers if and only if no cache serves it what was made from
other secrets. -/
theorem recovers_iff {vault accepted : Vault} {ttlMs refreshBufferMs : ℤ}
    (hrotated : Rotated jobs issuedFor (.start vault accepted ttlMs refreshBufferMs) j p)
    (hrun : CredentialRun jobs issuedFor p (.turn j (.made now) :: rest) last)
    (hrest : ∀ step ∈ rest, step.IsTurn) :
    UsesNewSecrets jobs issuedFor p j now rest ↔ ServesNewSecrets jobs issuedFor p j now rest := by
  have hturns {turns : List (CredentialStep ι)} (hfront : turns <+: rest) :
      ∀ step ∈ turns, step.IsTurn := fun step hmem => hrest step (hfront.subset hmem)
  have hreached {turns : List (CredentialStep ι)} (hfront : turns <+: rest) :
      ∃ q, CredentialRun jobs issuedFor p (.turn j (.made now) :: turns) q := by
    obtain ⟨later, rfl⟩ := hfront
    rw [← List.cons_append] at hrun
    obtain ⟨q, hleft, _⟩ := hrun.split
    exact ⟨q, hleft⟩
  constructor
  · intro huses
    constructor
    · obtain ⟨q, hmade⟩ := hreached List.nil_prefix
      cases hmade with
      | @cons _ q _ _ _ hanswers hstep hnil =>
        have hrun₀ : CredentialRun jobs issuedFor p [.turn j (.made now)] q :=
          .cons hanswers hstep (.nil q)
        apply (client_iff hstep).mp
        intro secrets hsecrets
        rw [← (since_made hstep).vault]
        exact (huses [] q List.nil_prefix hrun₀ secrets hsecrets).1
    · intro turns now' q hfront hq
      have hbefore : turns <+: rest := (List.prefix_append ..).trans hfront
      obtain ⟨q', hq'⟩ := hreached hfront
      have hq'' := hq'
      rw [← List.cons_append] at hq'
      obtain ⟨q₁, hq₁, hlast⟩ := hq'.split
      obtain rfl := hq₁.unique hq
      cases hlast with
      | cons _ hstep hnil =>
        cases hnil
        have hsince := since_of_run hq (hturns hbefore)
        refine (picks_iff hrotated.not_webhook hsince (hrotated.consistent.of_run hq) hstep).mp ?_
        intro secrets hsecrets
        have hvault := (since_of_run hq'' (hturns hfront)).vault
        rw [← hvault]
        exact (huses _ _ hfront hq'' secrets hsecrets).1
  · intro hserves turns q hfront hq secrets hsecrets
    have hsince := since_of_run hq (hturns hfront)
    rw [hsince.vault, hsince.accepted, ← hrotated.secrets_eq, and_self]
    induction turns using List.reverseRecOn generalizing q secrets with
    | nil =>
      cases hq with
      | cons _ hstep hnil =>
        cases hnil
        exact (client_iff hstep).mpr hserves.client secrets hsecrets
    | append_singleton turns step ih =>
      have hbefore : turns <+: rest := (List.prefix_append ..).trans hfront
      rw [← List.cons_append] at hq
      obtain ⟨q₁, hq₁, hlast⟩ := hq.split
      have hsince₁ := since_of_run hq₁ (hturns hbefore)
      have hconsistent := hrotated.consistent.of_run hq₁
      cases hlast with
      | cons _ hstep hnil =>
        cases hnil
        by_cases hpick : ∃ now', step = .turn j (.hydrated now')
        · obtain ⟨now', rfl⟩ := hpick
          have hpicks := hserves.picks turns now' q₁ hfront hq₁
          exact (picks_iff hrotated.not_webhook hsince₁ hconsistent hstep).mpr hpicks secrets hsecrets
        · have hturn := hturns hfront step (List.mem_append_right _ (List.mem_singleton_self _))
          have hsame := secretsOf_of_step hconsistent hsince₁.made hturn
            (fun now' heq => hpick ⟨now', heq⟩) hstep hsecrets
          exact ih q₁ hbefore hq₁ secrets hsame hsince₁

namespace Refused

/-- An account whose secrets are in the vault. -/
def account : NsAccountConfig where
  accountId := "TSTDRV1"
  credentials :=
    { consumerKeyRef := "ns-tstdrv1-consumer-key"
      consumerSecretRef := "ns-tstdrv1-consumer-secret"
      tokenKeyRef := "ns-tstdrv1-token-id"
      tokenSecretRef := "ns-tstdrv1-token-secret" }

/-- Two calls of the account. -/
def accountJobs : Bool → Job := fun _ => .netsuite account

/-- The first call reads its secrets and makes a client; its request is refused, because NetSuite
now accepts others. -/
def before : List (CredentialStep Bool) :=
  [.turn false (.made 0), .turn false (.vaultAnswered 0), .turn false (.vaultAnswered 1),
    .turn false (.vaultAnswered 2), .turn false (.vaultAnswered 3),
    .turn false (.secretArrived 0 0), .turn false (.secretArrived 1 0),
    .turn false (.secretArrived 2 0), .turn false (.secretArrived 3 0),
    .turn false (.hydrated 0), .issue (fun _ => some "new"), .turn false (.responded 401)]

/-- A process with secrets that are accepted. -/
def signing : CredentialProcess Bool :=
  .start (fun _ => some "old") (fun _ => some "old") 300000 300000

/-- The vault is given the new secrets, and the second call is made an hour later: it signs with the
old ones. -/
theorem exists_rotated : ∃ p q, Rotated accountJobs (fun _ => []) signing true p ∧
    CredentialRun accountJobs (fun _ => []) p [.turn true (.made 3600000)] q ∧
    q.secretsOf (fun _ => []) true = some ["old", "old", "old", "old"] ∧
    q.stores.vault = fun _ => some "new" := by
  have hbefore : ∃ refused, CredentialRun accountJobs (fun _ => []) signing before refused ∧
      (refused.calls false).Unauthorized ∧ refused.stores.accepted = (fun _ => some "new") ∧
      refused.calls true = .idle ∧
      refused.stores.clients "TSTDRV1" = some ["old", "old", "old", "old"] := by
    refine ⟨_, .cons trivial rfl (.cons trivial rfl (.cons trivial rfl (.cons trivial rfl
      (.cons trivial rfl (.cons trivial rfl (.cons trivial rfl (.cons trivial rfl (.cons trivial rfl
      (.cons trivial rfl (.cons trivial rfl (.cons (fun _ _ h => absurd rfl h) rfl
      (.nil _)))))))))))), rfl, rfl, rfl, rfl⟩
  obtain ⟨refused, hrun, hrefused, haccepted, hidle, hclient⟩ := hbefore
  let p : CredentialProcess Bool :=
    { refused with stores := { refused.stores with vault := fun _ => some "new" } }
  have hrotate : CredentialRun accountJobs (fun _ => []) refused [.rotate fun _ => some "new"] p :=
    .cons trivial rfl (.nil _)
  have hvalid : (accountJobs true).secrets (fun _ => some "new") =
      (accountJobs true).secrets refused.stores.accepted := by rw [haccepted]
  have hmade : p.step accountJobs (.turn true (.made 3600000)) =
      some (p.update true (.sent (.signature ["old", "old", "old", "old"])) p.stores) :=
    step_made_of_client hidle rfl hclient
  exact ⟨p, _, .intro hrun hrefused rfl hvalid hrotate (by simp) (by simp),
    .cons trivial hmade (.nil _), rfl, rfl⟩

/-- What the second call uses, and what is served to it. -/
theorem recovers_iff_refused : ∃ p q, Rotated accountJobs (fun _ => []) signing true p ∧
    CredentialRun accountJobs (fun _ => []) p [.turn true (.made 3600000)] q ∧
    (UsesNewSecrets accountJobs (fun _ => []) p true 3600000 [] ↔
      ServesNewSecrets accountJobs (fun _ => []) p true 3600000 []) := by
  obtain ⟨p, q, hrotated, hrun, _, _⟩ := exists_rotated
  exact ⟨p, q, hrotated, hrun, recovers_iff hrotated hrun (by simp)⟩

/-- A client that was made from the old secrets goes on signing with them. -/
theorem refused_not_recovers : ¬∀ (jobs : Bool → Job) (issuedFor : String → List String)
    (vault accepted : Vault) (ttlMs refreshBufferMs : ℤ) (j : Bool) (now : ℤ)
    (p last : CredentialProcess Bool) (rest : List (CredentialStep Bool)),
    Rotated jobs issuedFor (.start vault accepted ttlMs refreshBufferMs) j p →
    CredentialRun jobs issuedFor p (.turn j (.made now) :: rest) last →
    (∀ step ∈ rest, step.IsTurn) → UsesNewSecrets jobs issuedFor p j now rest := by
  intro hall
  obtain ⟨p, q, hrotated, hrun, hsecrets, hvault⟩ := exists_rotated
  have huses := hall _ _ _ _ _ _ _ _ p q [] hrotated hrun (by simp)
  have hcurrent := (huses [] q List.nil_prefix hrun _ hsecrets).1
  rw [hvault] at hcurrent
  exact absurd hcurrent (by decide)

end Refused

end DpIntegrator
