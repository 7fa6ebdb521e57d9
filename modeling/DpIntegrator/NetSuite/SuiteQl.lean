import DpIntegrator.NetSuite.SdkGateway

/-!
# Reads of the NetSuite gateway

The gateway reads records by SuiteQL queries of the SDK: a record by its external id, the addresses
of a customer, and items by their SKU. Items are looked up through a cache that lives as long as the
process. The SDK's client is a parameter.
-/

namespace DpIntegrator

/-- A query, as the builder of the SDK is told it. -/
structure SuiteQlQuery where
  select : List String
  table : String
  whereEquals : String × String
  deriving DecidableEq, Repr

/-- `client.suiteql` of the SDK: all rows of a query, or its first one. -/
structure SuiteQl where
  query : SuiteQlQuery → Except Thrown (List Js.Fields)
  queryOne : SuiteQlQuery → Except Thrown (Option Js.Fields)

/-- A gateway whose clients answer queries. -/
structure SuiteQlGateway (Account : Type) where
  accounts : String → Option Account
  suiteql : Account → Except Thrown SuiteQl

namespace SuiteQlGateway

variable {Account : Type} (gateway : SuiteQlGateway Account)

def resolveAccount (nsAccountId : String) : Except Thrown Account :=
  match gateway.accounts nsAccountId with
  | some account => .ok account
  | none => .error (newError ("SdkNetSuiteGateway: unknown NS account '" ++ nsAccountId ++ "'"))

/-- A field of a row, `undefined` where it has none. -/
def column (row : Js.Fields) (name : String) : Js.Value := (row.get? name).getD .undefined

/-! ## Records -/

def findByExternalId (args : FindArgs) : Except Thrown (Option Js.Fields) := do
  let account ← gateway.resolveAccount args.nsAccountId
  let client ← gateway.suiteql account
  let cols := if args.fields = [] then ["id", "externalid"] else args.fields
  client.queryOne
    { select := cols
      table := Js.toLowerCase args.recordType.text
      whereEquals := ("externalid", shopifyGidToNsExternalId args.externalId) }

/-! ## Addresses -/

/-- `/^[a-z][a-z0-9_]*$/`. -/
def isFieldId (s : String) : Bool :=
  match s.toList with
  | [] => false
  | c :: cs => c.isLower && cs.all fun c => c.isLower || c.isDigit || c == '_'

/-- A flag of a row: `true`, or the `T` of SuiteQL. -/
def isSet (v : Js.Value) : Bool :=
  match v with
  | .bool b => b
  | .str s => s = "T"
  | _ => false

/-- The entry of a row. -/
def addressbookEntry (shopifyIdField : String) (row : Js.Fields) : CustomerAddressbookEntry where
  internalId := let id := column row "id"; if id.isNullish then "" else id.toText
  shopifyAddressId :=
    let shopifyId := column row shopifyIdField
    if shopifyId.isNullish || shopifyId.toText = "" then none else some shopifyId.toText
  defaultBilling := isSet (column row "defaultbilling")
  defaultShipping := isSet (column row "defaultshipping")
  label := let label := column row "label"; if label.isNullish then none else some label.toText

def getCustomerAddressbook (args : AddressbookArgs) :
    Except Thrown (List CustomerAddressbookEntry) := do
  if !isFieldId args.shopifyIdField then
    throw (newError ("SdkNetSuiteGateway.getCustomerAddressbook: invalid shopifyIdField '" ++
      args.shopifyIdField ++ "'"))
  let account ← gateway.resolveAccount args.nsAccountId
  let client ← gateway.suiteql account
  let result ← client.query
    { select := ["id", "defaultbilling", "defaultshipping", "label", args.shopifyIdField]
      table := "customerAddressbook"
      whereEquals := ("entity", args.customerInternalId) }
  return result.map (addressbookEntry args.shopifyIdField)

/-! ## Items -/

/-- `itemCache`: what the lookups of the process found, misses included. -/
abbrev ItemCache := String → Option (Option String)

/-- The key under which an item is cached. -/
def itemCacheKey (nsAccountId sku : String) : String := nsAccountId ++ "::" ++ sku

/-- The id of an item's row. -/
def itemId (row : Option Js.Fields) : Option String :=
  let id := (row.map fun row => column row "id").getD .undefined
  if id.isNullish then none else some id.toText

/-- The query for an item. -/
def itemQuery (sku : String) : SuiteQlQuery where
  select := ["id"]
  table := "item"
  whereEquals := ("itemid", sku)

/-- NetSuite's answer to the query for an item. -/
def lookupItem (nsAccountId sku : String) : Except Thrown (Option String) := do
  let account ← gateway.resolveAccount nsAccountId
  let client ← gateway.suiteql account
  let row ← client.queryOne (itemQuery sku)
  return itemId row

/-- Look an item up, in the cache first. An answer of NetSuite is cached, whatever it is. -/
def resolveItemId (nsAccountId sku : String) (cache : ItemCache) :
    Except Thrown (Option String) × ItemCache :=
  match cache (itemCacheKey nsAccountId sku) with
  | some id => (.ok id, cache)
  | none =>
    match gateway.lookupItem nsAccountId sku with
    | .error e => (.error e, cache)
    | .ok id => (.ok id, Function.update cache (itemCacheKey nsAccountId sku) (some id))

end SuiteQlGateway

end DpIntegrator
