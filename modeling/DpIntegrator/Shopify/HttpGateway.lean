import DpIntegrator.Credentials.Caches
import DpIntegrator.Shopify.DailyAggregate

/-!
# Requests of the HTTP gateway

The requests that the gateway posts for one order, for the orders updated since a time and for
the tags of an order, and the exchange with which the token service fetches an access token. A
response that is no success becomes an error that carries its status and its text.
-/

namespace DpIntegrator

open Effects

/-! ## Requests and responses -/

/-- A response: a failure with its status and text, or the body, if it can be read. -/
inductive ShopifyResponse (Body : Type)
  | failed (status : ℕ) (text : String)
  | ok (body : Except Thrown Body)

/-- The messages of `errors`, where they are present. -/
abbrev GraphQLErrors := Option (List (Option String))

structure OrderBody where
  order : Option GraphQLOrder := none
  errors : GraphQLErrors := none

structure OrdersUpdatedBody where
  edges : Option (List OrderSummary) := none
  errors : GraphQLErrors := none

structure TagsUserError where
  field : Option (List String) := none
  message : Option String := none
  code : Option String := none

structure TagsAddBody where
  tags : Option (List String) := none
  userErrors : Option (List TagsUserError) := none
  errors : GraphQLErrors := none

structure TokenBody where
  accessToken : Option String := none
  scope : Option String := none
  expiresIn : Option ℤ := none

/-- The GraphQL documents that are posted, with their variables. -/
inductive ShopifyRequest
  | order (id : String)
  | ordersUpdatedSince (first : ℕ) (query : String)
  | tagsAdd (id : String) (tags : List String)
  deriving DecidableEq

@[reducible] def ShopifyRequest.Body : ShopifyRequest → Type
  | .order _ => OrderBody
  | .ordersUpdatedSince .. => OrdersUpdatedBody
  | .tagsAdd .. => TagsAddBody

/-- What the gateway and the token service await, and the clock. -/
inductive ShopifyOp
  | resolveAccessToken (connection : Connection)
  | post (url accessToken : String) (request : ShopifyRequest)
  | exchange (url clientId clientSecret : String)
  | now

@[reducible] def ShopifyOp.Resp : ShopifyOp → Type
  | .resolveAccessToken _ => Except Thrown String
  | .post _ _ request => Except Thrown (ShopifyResponse request.Body)
  | .exchange .. => Except Thrown (ShopifyResponse TokenBody)
  | .now => ℤ

abbrev ShopifyEv := Event ShopifyOp ShopifyOp.Resp

abbrev Shopify := Throwing Thrown ShopifyOp ShopifyOp.Resp

namespace Shopify

def resolveAccessToken (connection : Connection) : Shopify String :=
  ExceptT.mk (Prog.perform (ShopifyOp.resolveAccessToken connection))

def post (url accessToken : String) (request : ShopifyRequest) :
    Shopify (ShopifyResponse request.Body) :=
  ExceptT.mk (Prog.perform (ShopifyOp.post url accessToken request))

def exchange (url clientId clientSecret : String) : Shopify (ShopifyResponse TokenBody) :=
  ExceptT.mk (Prog.perform (ShopifyOp.exchange url clientId clientSecret))

def now : Shopify ℤ := Throwing.observe ShopifyOp.now

/-- A computation that awaits nothing, but may throw. -/
def ofExcept {α : Type} (x : Except Thrown α) : Shopify α := ExceptT.mk (.ret x)

variable {tr : List ShopifyEv}

@[simp] theorem settles_resolveAccessToken {connection : Connection} {res : Except Thrown String} :
    Settles (resolveAccessToken connection) tr res ↔
      tr = [⟨.resolveAccessToken connection, res⟩] := by
  change Runs (Prog.perform (ShopifyOp.resolveAccessToken connection)) tr res ↔ _
  exact runs_perform

@[simp] theorem settles_post {url accessToken : String} {request : ShopifyRequest}
    {res : Except Thrown (ShopifyResponse request.Body)} :
    Settles (post url accessToken request) tr res ↔
      tr = [⟨.post url accessToken request, res⟩] := by
  change Runs (Prog.perform (ShopifyOp.post url accessToken request)) tr res ↔ _
  exact runs_perform

@[simp] theorem settles_exchange {url clientId clientSecret : String}
    {res : Except Thrown (ShopifyResponse TokenBody)} :
    Settles (exchange url clientId clientSecret) tr res ↔
      tr = [⟨.exchange url clientId clientSecret, res⟩] := by
  change Runs (Prog.perform (ShopifyOp.exchange url clientId clientSecret)) tr res ↔ _
  exact runs_perform

@[simp] theorem settles_ofExcept {α : Type} {x res : Except Thrown α} :
    Settles (ofExcept x) tr res ↔ tr = [] ∧ res = x := runs_ret

end Shopify

/-! ## The gateway -/

/-- The error of a response that is no success. -/
def httpFailure (source store : String) (status : ℕ) (text : String) : Thrown :=
  newError (source ++ ": " ++ store ++ " returned " ++ toString status ++ ": " ++ text)

/-- Throw what GraphQL reports. -/
def rejectErrors (source : String) (errors : GraphQLErrors) : Except Thrown Unit :=
  if errors.getD [] = [] then .ok ()
  else .error (newError (source ++ ": GraphQL errors: " ++
    "; ".intercalate ((errors.getD []).map fun e => e.getD "?")))

namespace ShopifyHttpGateway

/-- Post a request with the access token of the connection; only the body of a success is read. -/
def request (gateway : ShopifyHttpGateway) (connection : Connection) (source : String)
    (request : ShopifyRequest) : Shopify request.Body := do
  let accessToken ← Shopify.resolveAccessToken connection
  let url := "https://" ++ connection.shopifyStore ++ "/admin/api/" ++ gateway.apiVersion ++
    "/graphql.json"
  match ← Shopify.post url accessToken request with
  | .failed status text => throw (httpFailure source connection.shopifyStore status text)
  | .ok body => Shopify.ofExcept body

/-- The order of a body. -/
def orderOfBody (connection : Connection) (orderGid : String) (body : OrderBody) :
    Except Thrown ShopifyOrder := do
  rejectErrors "ShopifyHttpGateway.getOrder" body.errors
  match body.order with
  | none => throw (orderNotFoundError orderGid connection.shopifyStore)
  | some order => return mapGraphQLOrder order

def getOrder (gateway : ShopifyHttpGateway) (connection : Connection) (orderGid : String) :
    Shopify ShopifyOrder := do
  let body ← gateway.request connection "ShopifyHttpGateway.getOrder" (.order orderGid)
  Shopify.ofExcept (orderOfBody connection orderGid body)

/-- The orders of a body. -/
def summariesOfBody (body : OrdersUpdatedBody) : Except Thrown (List OrderSummary) := do
  rejectErrors "ShopifyHttpGateway.listOrdersUpdatedSince" body.errors
  return body.edges.getD []

def listOrdersUpdatedSince (gateway : ShopifyHttpGateway) (connection : Connection)
    (since : String) (limit : Option ℕ) : Shopify (List OrderSummary) := do
  let body ← gateway.request connection "ShopifyHttpGateway.listOrdersUpdatedSince"
    (.ordersUpdatedSince (limit.getD 250) ("updated_at:>='" ++ since ++ "'"))
  Shopify.ofExcept (summariesOfBody body)

/-- The tags of a body. An order that Shopify does not find is told from other user errors. -/
def tagsOfBody (connection : Connection) (orderGid : String) (body : TagsAddBody) :
    Except Thrown (List String) := do
  rejectErrors "ShopifyHttpGateway.tagOrder" body.errors
  let userErrors := body.userErrors.getD []
  if userErrors = [] then return body.tags.getD []
  else if userErrors.any (fun e => e.code = some "NOT_FOUND") then
    throw (orderNotFoundError orderGid connection.shopifyStore)
  else throw (newError ("ShopifyHttpGateway.tagOrder: userErrors: " ++
    "; ".intercalate (userErrors.map fun e => ".".intercalate (e.field.getD []) ++ ": " ++
      e.message.getD "?" ++ " (" ++ e.code.getD "?" ++ ")")))

def tagOrder (gateway : ShopifyHttpGateway) (connection : Connection) (orderGid : String)
    (tags : List String) : Shopify (List String) := do
  if tags = [] then return []
  let body ← gateway.request connection "ShopifyHttpGateway.tagOrder" (.tagsAdd orderGid tags)
  Shopify.ofExcept (tagsOfBody connection orderGid body)

end ShopifyHttpGateway

/-! ## The token service -/

structure ShopifyTokenServiceCredentials where
  shopDomain : String
  clientId : String
  clientSecret : String

/-- The token of a body that has one. -/
def tokenOfBody (shopDomain : String) (now : ℤ) (body : TokenBody) : Except Thrown CachedToken :=
  match truthy body.accessToken with
  | none =>
    .error (newError
      ("ShopifyTokenService: " ++ shopDomain ++ " returned no access_token in response"))
  | some accessToken =>
    .ok
      { accessToken
        expiresAt := now + body.expiresIn.getD 3600 * 1000
        scope := body.scope.getD "" }

/-- `ShopifyTokenService.fetchToken`. -/
def fetchToken (creds : ShopifyTokenServiceCredentials) : Shopify CachedToken := do
  let url := "https://" ++ creds.shopDomain ++ "/admin/oauth/access_token"
  match ← Shopify.exchange url creds.clientId creds.clientSecret with
  | .failed status text =>
    throw (newError ("ShopifyTokenService: " ++ creds.shopDomain ++ " returned " ++
      toString status ++ " on token exchange: " ++ text))
  | .ok (.error e) => throw e
  | .ok (.ok body) =>
    let now ← Shopify.now
    Shopify.ofExcept (tokenOfBody creds.shopDomain now body)

end DpIntegrator
