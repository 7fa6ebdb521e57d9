import Mathlib.Data.Int.Notation
import Mathlib.Data.Nat.Notation
import Mathlib.Logic.Function.Basic

/-!
# Caches of credentials

The secret provider caches secrets of the vault for a while, the token service caches the access
token of each shop and the exchange that is under way for it, and the client factory caches an SDK
client for each NetSuite account. All three live as long as the process.
-/

namespace DpIntegrator

/-! ## Secrets -/

/-- What the vault holds under each ref. -/
abbrev Vault := String → Option String

structure CachedSecret where
  value : String
  expiresAt : ℤ

/-- `KeyVaultSecretProvider`. -/
structure SecretProvider where
  ttlMs : ℤ := 5 * 60 * 1000
  cache : String → Option CachedSecret := fun _ => none

namespace SecretProvider

/-- The secret that is served from the cache. -/
def cached (provider : SecretProvider) (ref : String) (now : ℤ) : Option String :=
  match provider.cache ref with
  | some cached => if cached.expiresAt > now then some cached.value else none
  | none => none

/-- Keep a secret that has arrived. -/
def set (provider : SecretProvider) (ref value : String) (now : ℤ) : SecretProvider :=
  { provider with
    cache := Function.update provider.cache ref (some ⟨value, now + provider.ttlMs⟩) }

end SecretProvider

/-- A call of `getSecret`, at its await. -/
inductive SecretRead
  /-- The vault was asked. -/
  | asked
  /-- The vault has answered; the answer is under way. -/
  | answered (value : Option String)
  /-- Resolved. -/
  | resolved (value : String)
  /-- Rejected: the secret has no value. -/
  | rejected
  deriving DecidableEq

/-- `getSecret`, up to its await. -/
def SecretProvider.getSecret (provider : SecretProvider) (now : ℤ) (ref : String) : SecretRead :=
  match provider.cached ref now with
  | some value => .resolved value
  | none => .asked

/-- `getSecret`, when the answer of the vault arrives. -/
def SecretProvider.receive (provider : SecretProvider) (now : ℤ) (ref : String)
    (value : Option String) : SecretRead × SecretProvider :=
  match value with
  | some value => if value = "" then (.rejected, provider)
    else (.resolved value, provider.set ref value now)
  | none => (.rejected, provider)

/-- The value of a read that is resolved. -/
def SecretRead.value? : SecretRead → Option String
  | .resolved value => some value
  | _ => none

/-! ## Access tokens -/

structure CachedToken where
  accessToken : String
  expiresAt : ℤ
  scope : String

/-- What the token endpoint of a shop responds: a refusal, no token or nothing at all, or a token. -/
inductive TokenResponse
  | refused (status : ℕ)
  | noToken
  | token (accessToken : String) (scope : Option String) (expiresIn : Option ℤ)

/-- The end of `fetchToken`, at the time `now`. A rejection keeps the status of the response. -/
def fetchedToken (now : ℤ) : TokenResponse → Except (Option ℕ) CachedToken
  | .refused status => .error (some status)
  | .noToken => .error none
  | .token accessToken scope expiresIn =>
    .ok
      { accessToken
        expiresAt := now + expiresIn.getD 3600 * 1000
        scope := scope.getD "" }

/-- `ShopifyTokenService`. An exchange in flight is named by the call that started it. -/
structure TokenService (ι : Type) where
  refreshBufferMs : ℤ := 5 * 60 * 1000
  cache : String → Option CachedToken := fun _ => none
  inFlight : String → Option ι := fun _ => none

/-- Where a token comes from. -/
inductive TokenSource (ι : Type)
  | cached (token : CachedToken)
  | existing (exchange : ι)
  | fetch

namespace TokenService

variable {ι : Type} (service : TokenService ι) (shopDomain : String)

/-- The token that is served from the cache. -/
def cached (now : ℤ) : Option CachedToken :=
  match service.cache shopDomain with
  | some cached => if cached.expiresAt - service.refreshBufferMs > now then some cached else none
  | none => none

/-- `getAccessToken`, up to its await. -/
def getAccessToken (now : ℤ) : TokenSource ι :=
  match service.cached shopDomain now with
  | some token => .cached token
  | none =>
    match service.inFlight shopDomain with
    | some exchange => .existing exchange
    | none => .fetch

/-- An exchange is started. -/
def fetching (exchange : ι) : TokenService ι :=
  { service with inFlight := Function.update service.inFlight shopDomain (some exchange) }

/-- The end of `getAccessToken` in the call that started the exchange. -/
def fetched (result : Except (Option ℕ) CachedToken) : TokenService ι :=
  { service with
    cache := match result with
      | .ok fresh => Function.update service.cache shopDomain (some fresh)
      | .error _ => service.cache
    inFlight := Function.update service.inFlight shopDomain none }

end TokenService

/-! ## SDK clients -/

structure NsCredentialRefs where
  consumerKeyRef : String
  consumerSecretRef : String
  tokenKeyRef : String
  tokenSecretRef : String

structure NsAccountConfig where
  accountId : String
  credentials : NsCredentialRefs

/-- The cache of `NetSuiteClientFactory`: the secrets that the client of each account signs with. -/
abbrev ClientCache := String → Option (List String)

end DpIntegrator
