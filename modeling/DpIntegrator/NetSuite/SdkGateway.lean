import DpIntegrator.Calls

/-!
# The NetSuite gateway

How the gateway writes a record through the SDK's transport, and how it decorates the
errors of the SDK. The transport, the account table and the client factory are
parameters; an SDK error is classified by its status, codes and details.
-/

namespace DpIntegrator

/-! ## Classification of SDK errors -/

/-- The getters of netsuite-sdk on the status of an error. -/
structure NetSuiteSdk where
  isAuthError : ℕ → Bool
  isRetryable : ℕ → Bool

/-- The `o:errorDetails` of an error body. -/
def NetSuiteErrorDetails.items (details : NetSuiteErrorDetails) : List Js.Value :=
  match details.fields.get? "o:errorDetails" with
  | some (.arr items) => items
  | _ => []

/-- The error codes of an SDK error, in upper case: its own and those of its details.
Only texts that are not empty count. -/
def NetSuiteError.allCodes (err : NetSuiteError) : List String :=
  let detailCodes := ((err.details.map NetSuiteErrorDetails.items).getD []).filterMap fun d =>
    match d.prop "o:errorCode" with
    | .str s => if s = "" then none else some s
    | _ => none
  (err.code.toList ++ detailCodes).map Js.toUpperCase

/-- A concurrency or rate limit: by status 429, or by a code. -/
def NetSuiteError.isThrottled (err : NetSuiteError) : Bool :=
  err.status == 429 ||
    err.allCodes.any fun c => Js.includes c "CONCURRENT" || Js.includes c "GOVERNANCE"

def dataCodePatterns : List String :=
  ["INVALID_KEY_OR_REF", "INVALID_FIELD", "INVALID_RECORD", "INVALID_FIELD_VALUE",
    "MISSING_REQD_FIELD", "USER_ERROR", "INSUFFICIENT_PERMISSION"]

/-- A rejection of the data: by status and code. -/
def NetSuiteError.isDataRejection (err : NetSuiteError) : Bool :=
  (err.status == 400 || err.status == 422) &&
    err.allCodes.any fun c => dataCodePatterns.any (Js.includes c)

/-- `mapNetSuiteError` on an error of the SDK. -/
def NetSuiteSdk.classOf (sdk : NetSuiteSdk) (err : NetSuiteError) : ErrorClass :=
  if sdk.isAuthError err.status then .auth
  else if err.isThrottled then .transient
  else if sdk.isRetryable err.status then .transient
  else if err.isDataRejection then .data
  else .unknown

def mapNetSuiteError (sdk : NetSuiteSdk) : Thrown → ErrorClass
  | .error { kind := .netSuite info, .. } => sdk.classOf info
  | .error e =>
    let msg := Js.toLowerCase e.message
    if Js.includes msg "econnreset" || Js.includes msg "etimedout" ||
      Js.includes msg "socket hang up" then .transient else .unknown
  | _ => .unknown

/-! ## External ids -/

/-- Characters that may stand in an external id. -/
def isSafe (c : Char) : Bool := c.isAlphanum || c == '_' || c == '-'

/-- The type and the number of a Shopify GID, as `gid://shopify/<letters>/<digits>`. -/
def gidParts (s : String) : Option (List Char × List Char) :=
  match Js.splitChars '/' s.toList with
  | [scheme, authority, host, type, number] =>
    if scheme = "gid:".toList ∧ authority = [] ∧ host = "shopify".toList ∧
      type ≠ [] ∧ type.all Char.isAlpha ∧ number ≠ [] ∧ number.all Char.isDigit
    then some (type, number) else none
  | _ => none

/-- The external id of a Shopify entity in NetSuite. Every code unit that may not stand in
one becomes a hyphen. -/
def shopifyGidToNsExternalId (externalId : String) : String :=
  match gidParts externalId with
  | some (type, number) =>
    "shopify-" ++ String.ofList (type.map Char.toLower) ++ "-" ++ String.ofList number
  | none =>
    String.ofList (externalId.toList.flatMap fun c =>
      if isSafe c then [c] else if c.toNat < 0x10000 then ['-'] else ['-', '-'])

/-! ## Decoration of errors -/

/-- `${e.status}`. -/
def ErrorKind.statusText : ErrorKind → String
  | .netSuite info => toString info.status
  | _ => "undefined"

/-- ` details=...`, where the error has details. -/
def detailsText (info : NetSuiteError) : String :=
  match info.details with
  | some details => " details=" ++ Js.slice ((Js.stringify (.obj details.fields)).getD "") 1500
  | none => ""

/-- ` body=...`. -/
def bodyText (requestBody : Js.Fields) : String :=
  " body=" ++ Js.slice ((Js.stringify (.obj requestBody)).getD "") 4000

/-- The raw response that a decorated error carries: the body, or else the details. -/
def NetSuiteError.rawNsResponse (info : NetSuiteError) : RawNsResponse where
  status := some info.status
  body := info.body.or (info.details.map fun details => .obj details.fields)

/-- The properties of an SDK error; errors that only bear the name have none. -/
def ErrorKind.info? : ErrorKind → Option NetSuiteError
  | .netSuite info => some info
  | _ => none

/-- Wrap an error of the SDK into a plain error whose message carries its details and the
request body; other errors pass. -/
def decorateNsError (err : Thrown) (context : String) (requestBody : Js.Fields) : Thrown :=
  match err with
  | .error e =>
    if e.name ≠ "NetSuiteError" then err
    else .error
      { message := "NS " ++ context ++ " status=" ++ e.kind.statusText ++ " " ++ e.message ++
          ((e.kind.info?.map detailsText).getD "") ++ bodyText requestBody
        rawNsResponse :=
          some ((e.kind.info?.map NetSuiteError.rawNsResponse).getD { status := none, body := none }) }
  | err => err

/-! ## Upsert -/

/-- The SDK's transport: a `PUT` of a body to a URL. -/
abbrev SdkTransport := String → Js.Fields → Except Thrown RawResponse

/-- A gateway over the accounts of a deployment. A client may lack its transport. -/
structure SdkNetSuiteGateway (Account : Type) where
  accounts : String → Option Account
  client : Account → Except Thrown (Option SdkTransport)

/-- Drop every case variant of `externalid` from a body. -/
def stripExternalId (payload : Js.Fields) : Js.Fields :=
  payload.filter fun (k, _) => Js.toLowerCase k ≠ "externalid"

/-- A header under either spelling of its name. -/
def locationHeader (headers : Option Js.Fields) : Js.Value :=
  orElse' ((headers.bind fun h => h.get? "location").getD .undefined)
    ((headers.bind fun h => h.get? "Location").getD .undefined)
where
  orElse' (a b : Js.Value) : Js.Value := if a.isNullish then b else a

/-- The internal id in the body of a response, or at the end of its location. -/
def extractInternalId (response : RawResponse) : Option String :=
  let id := (response.body.getD .undefined).prop "id"
  if (response.body.getD .undefined).isObject && !id.isNullish then some id.toText
  else match locationHeader response.headers with
    | .str location => truthyLast ((Js.split location '/').getLast?)
    | _ => none
where
  truthyLast (last : Option String) : Option String := last.filter (· ≠ "")

/-- An account id as it stands in a host name. -/
def normalizedAccount (nsAccountId : String) : String :=
  String.ofList ((Js.toLowerCase nsAccountId).toList.map fun c => if c = '_' then '-' else c)

/-- Create or update a record under its external id. -/
def SdkNetSuiteGateway.upsertByExternalId {Account : Type} (gateway : SdkNetSuiteGateway Account)
    (args : UpsertArgs) : Except Thrown UpsertResult := do
  let account ← match gateway.accounts args.nsAccountId with
    | some account => pure account
    | none =>
      throw (newError ("SdkNetSuiteGateway: unknown NS account '" ++ args.nsAccountId ++ "'"))
  let client ← gateway.client account
  let nsExternalId := shopifyGidToNsExternalId args.externalId
  let url := "https://" ++ normalizedAccount args.nsAccountId ++ ".suitetalk.api.netsuite.com" ++
    "/services/rest/record/v1/" ++ args.recordType.text ++ "/eid:" ++ nsExternalId
  let body := stripExternalId args.payload
  let request ← match client with
    | some request => pure request
    | none =>
      throw (newError
        "SdkNetSuiteGateway: NetSuiteClient.transport is missing the request method")
  let response ← match request url body with
    | .ok response => pure response
    | .error err =>
      throw (decorateNsError err
        ("upsert " ++ args.recordType.text ++ " eid:" ++ nsExternalId) body)
  match (extractInternalId response).filter (· ≠ "") with
  | none =>
    throw (newError ("SdkNetSuiteGateway.upsertByExternalId: NS returned status=" ++
      toString response.status ++ " but no internal id (Location='" ++
      (let loc := locationHeader response.headers; if loc.isNullish then "" else loc.toText) ++
      "')"))
  | some internalId =>
    return {
      internalId
      externalId := args.externalId
      created := response.status == 201
      rawResponse := some response }

end DpIntegrator
