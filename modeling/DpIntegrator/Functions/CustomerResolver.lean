import DpIntegrator.NetSuite.DeriveFns

/-!
# Customers

Matches the customer of an order with a NetSuite customer, or creates one, and writes
the addresses of the order into its addressbook.
-/

namespace DpIntegrator

open Effects

structure CustomerResolution where
  internalId : String
  isGuest : Bool
  created : Bool
  deriving DecidableEq, Repr

/-- The addresses of the order. -/
structure OrderAddressesForCustomer where
  billing : Option ShopifyAddress
  shipping : Option ShopifyAddress

/-- An entry of an addressbook sublist. -/
structure AddressbookEntry where
  defaultBilling : Bool
  defaultShipping : Bool
  label : String
  address : Js.Fields
  id : Option String := none

instance : ToJs AddressbookEntry :=
  ⟨fun e => .obj ([("defaultBilling", .bool e.defaultBilling),
    ("defaultShipping", .bool e.defaultShipping), ("label", .str e.label),
    ("addressbookaddress", .obj e.address)] ++ optional "id" e.id)⟩

/-- The addressbook of the order's own addresses. One address on both sides is one entry. -/
def buildAddressbookLegacy (addresses : OrderAddressesForCustomer) : List AddressbookEntry :=
  match shopifyAddressToNs addresses.billing none, shopifyAddressToNs addresses.shipping none with
  | none, none => []
  | some billing, none => [⟨true, true, "Billing", billing, none⟩]
  | none, some shipping => [⟨true, true, "Shipping", shipping, none⟩]
  | some billing, some shipping =>
    if Js.stringify (.obj billing) = Js.stringify (.obj shipping) then
      [⟨true, true, "Default", billing, none⟩]
    else [⟨true, false, "Billing", billing, none⟩, ⟨false, true, "Shipping", shipping, none⟩]

/-- The existing entry that carries a Shopify address id; of several the last. -/
def matchingEntry (existing : List CustomerAddressbookEntry) (id : Option String) :
    Option CustomerAddressbookEntry :=
  (truthy id).bind fun id => existing.reverse.find? fun e => truthy e.shopifyAddressId = some id

/-- The entries for the addresses of the order, merged into the existing ones. -/
def incomingEntries (addresses : OrderAddressesForCustomer)
    (existing : List CustomerAddressbookEntry) (billing shipping : Option Js.Fields) :
    List AddressbookEntry :=
  let billingId := addresses.billing.bind ShopifyAddress.id
  let shippingId := addresses.shipping.bind ShopifyAddress.id
  let matched (id : Option String) := (matchingEntry existing id).map
    CustomerAddressbookEntry.internalId
  match billing with
  | some b =>
    if billingId.isSome ∧ billingId = shippingId then
      [⟨true, true, "Default", b, matched billingId⟩]
    else ⟨true, shipping.isNone, "Billing", b, matched billingId⟩ ::
      (shipping.toList.map fun s => ⟨false, true, "Shipping", s, matched shippingId⟩)
  | none => shipping.toList.map fun s => ⟨true, true, "Shipping", s, matched shippingId⟩

/-- An existing entry that no address of the order claimed. Defaults that the order
claimed are taken from it. -/
def preservedEntry (claimsBilling claimsShipping : Bool) (e : CustomerAddressbookEntry) :
    Js.Value :=
  .obj ([("id", .str e.internalId),
    ("defaultBilling", .bool (if claimsBilling then false else e.defaultBilling)),
    ("defaultShipping", .bool (if claimsShipping then false else e.defaultShipping))] ++
    whenTruthy "label" e.label)

def buildAddressbookMerged (addresses : OrderAddressesForCustomer)
    (existing : List CustomerAddressbookEntry) (shopifyIdField : String) : List Js.Value :=
  let billing := shopifyAddressToNs addresses.billing (some shopifyIdField)
  let shipping := shopifyAddressToNs addresses.shipping (some shopifyIdField)
  if billing.isNone ∧ shipping.isNone then []
  else
    let out := incomingEntries addresses existing billing shipping
    let claimed := out.filterMap AddressbookEntry.id
    let claimsBilling := out.any AddressbookEntry.defaultBilling
    let claimsShipping := out.any AddressbookEntry.defaultShipping
    out.map toJs ++
      (existing.filter fun e => e.internalId ∉ claimed).map
        (preservedEntry claimsBilling claimsShipping)

/-- The customer payload: identity, subsidiary and addressbook. -/
def buildCustomerPayload (connection : Connection) (c : ShopifyCustomer)
    (addresses : OrderAddressesForCustomer) (existing : List CustomerAddressbookEntry) :
    Js.Fields :=
  let isPerson := (truthy c.firstName).isSome || (truthy c.lastName).isSome
  let names : Js.Fields :=
    if isPerson then whenTruthy "firstname" c.firstName ++ whenTruthy "lastname" c.lastName
    else
      let companyName := (c.defaultAddress.bind ShopifyAddress.company).or
        (c.email.or ((Js.split c.id '/').getLast?))
      field "companyname" (companyName.getD "Unknown")
  let phone := (c.defaultAddress.bind ShopifyAddress.phone).or
    ((addresses.shipping.bind ShopifyAddress.phone).or
      (addresses.billing.bind ShopifyAddress.phone))
  let addressbook : List Js.Value :=
    match truthy connection.shopifyAddressIdField with
    | some shopifyIdField => buildAddressbookMerged addresses existing shopifyIdField
    | none => (buildAddressbookLegacy addresses).map toJs
  [("externalid", .str c.id), ("isperson", .bool isPerson),
    ("subsidiary", .str connection.nsSubsidiary)] ++ names ++ whenTruthy "email" c.email ++
    whenTruthy "phone" phone ++
    (if addressbook = [] then [] else [("addressbook", .obj [("items", .arr addressbook)])])

/-- The entries of the addressbook that the customer already has. -/
def existingAddressbook (connection : Connection) (customer : ShopifyCustomer) :
    Async (List CustomerAddressbookEntry) :=
  match truthy connection.shopifyAddressIdField with
  | none => return []
  | some fieldId => do
    let existing ← Async.io (.findByExternalId
      { nsAccountId := connection.nsAccountId, recordType := .customer
        externalId := customer.id, fields := ["id"] })
    let existingId := ((existing.bind fun fields => fields.get? "id")).getD .undefined
    if existingId.isNullish then return []
    else Async.io (.getCustomerAddressbook
      { nsAccountId := connection.nsAccountId, customerInternalId := existingId.toText
        shopifyIdField := fieldId })

/-- Match or create the customer of an order. An order without a customer is a guest's. -/
def resolveCustomer (connection : Connection) (shopifyCustomer : Option ShopifyCustomer)
    (guestCustomerInternalId : String) (addresses : OrderAddressesForCustomer) :
    Async CustomerResolution :=
  match shopifyCustomer with
  | none => return ⟨guestCustomerInternalId, true, false⟩
  | some customer => do
    let existing ← existingAddressbook connection customer
    let result ← Async.io (.upsertByExternalId
      { nsAccountId := connection.nsAccountId, recordType := .customer
        externalId := customer.id
        payload := buildCustomerPayload connection customer addresses existing })
    return ⟨result.internalId, false, result.created⟩

end DpIntegrator
