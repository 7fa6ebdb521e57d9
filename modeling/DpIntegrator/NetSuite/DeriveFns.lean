import DpIntegrator.Js.Date
import DpIntegrator.Mapping.Evaluator

/-!
# Built-in derivations and the default order map

The derivations that the default field map of an order refers to, and that map.
Reference fields are plain ids here; the payload builder wraps them.
-/

namespace DpIntegrator

/-- What the host decides about dates: the reading of texts outside the ISO format. -/
structure Dates where
  parseOther : String → Option ℤ

/-- `new Date(s)`. -/
def Dates.parse (dates : Dates) (s : String) : Option ℤ := Js.newDate dates.parseOther s

/-- A property for a text that is present and not empty. -/
def whenTruthy (key : String) (s : Option String) : Js.Fields := optional key (truthy s)

/-! ## Derivations -/

/-- The date of a time stamp of the order, as `YYYY-MM-DD`. -/
def parseShopifyDate (dates : Dates) : DeriveFn ShopifyOrder := fun args order =>
  let arg := (args.get? "field").getD .undefined
  let name := if arg.isNullish then "" else arg.toText
  if name = "" then .error (newError "parseShopifyDate: args.field is required")
  else match (toJs order).prop name with
    | .str raw =>
      if raw = "" then .ok .null
      else match dates.parse raw with
        | none =>
          .error (newError
            ("parseShopifyDate: '" ++ name ++ "' is not a valid ISO date: " ++ raw))
        | some t => .ok (.str (Js.utcDay t))
    | _ => .ok .null

/-- `a ?? b`. -/
def orElse (a b : Js.Value) : Js.Value := if a.isNullish then b else a

def buildLine (line : ShopifyLineItem) (defaultItemId : Js.Value) : Js.Value :=
  .obj [("item", orElse defaultItemId (.str (line.sku.getD "UNMAPPED-ITEM"))),
    ("quantity", .num line.quantity),
    ("rate", .num (Js.toNumber line.originalUnitPrice.amount)),
    ("amount", .num (Js.toNumber line.discountedTotal.amount)),
    ("description", .str line.title)]

/-- The item lines of the order. -/
def shopifyLineToItemLine : DeriveFn ShopifyOrder := fun args order =>
  let defaultItemId := orElse ((args.get? "defaultItemId").getD .undefined) .null
  return .arr (order.lineItems.map fun line => buildLine line defaultItemId)

/-- The numeric id at the end of the id of the order. -/
def extractShopifyOrderId : DeriveFn ShopifyOrder := fun _ order =>
  match Js.trailingNumber order.id with
  | some digits => return .str digits
  | none =>
    throw (newError ("extractShopifyOrderId: cannot extract numeric id from order.id='" ++
      order.id ++ "'"))

def buildShippingLine (line : ShopifyShippingLine) (itemRef : Js.Value) : Js.Value :=
  .obj [("item", itemRef), ("rate", .num (Js.toNumber line.price.amount)),
    ("amount", .num (Js.toNumber line.price.amount)), ("description", .str line.title)]

/-- The shipping lines of the order. A given ship item is marked as resolved. -/
def shopifyShippingToLine : DeriveFn ShopifyOrder := fun args order =>
  let fallback := (args.get? "defaultShipItemId").getD .undefined
  let itemRef : Js.Value :=
    if fallback.isNullish then .str "SHIP-STANDARD"
    else .obj [("id", fallback), ("__resolved", .bool true)]
  return .arr (order.shippingLines.map fun line => buildShippingLine line itemRef)

/-- The address sub-record of an address with content. -/
def shopifyAddressToNs (addr : Option ShopifyAddress) (shopifyIdField : Option String) :
    Option Js.Fields :=
  match addr with
  | none => none
  | some a =>
    if (truthy a.address1).isNone ∧ (truthy a.city).isNone ∧ (truthy a.zip).isNone then none
    else
      let names := (truthy a.firstName).toList ++ (truthy a.lastName).toList
      let addressee := String.ofList (Js.trim (String.intercalate " " names).toList)
      let out := whenTruthy "addressee" (some addressee) ++ whenTruthy "attention" a.company ++
        whenTruthy "addr1" a.address1 ++ whenTruthy "addr2" a.address2 ++
        whenTruthy "city" a.city ++ whenTruthy "state" a.provinceCode ++ whenTruthy "zip" a.zip ++
        whenTruthy "country" a.countryCode ++ whenTruthy "addrPhone" a.phone
      some (out.spread ((truthy shopifyIdField).toList.flatMap fun key => whenTruthy key a.id))

/-- A sub-record or `null`. -/
def subRecord : Option Js.Fields → Js.Value
  | some fields => .obj fields
  | none => .null

def shopifyShippingAddressToNs : DeriveFn ShopifyOrder := fun _ order =>
  return subRecord (shopifyAddressToNs order.shippingAddress none)

def shopifyBillingAddressToNs : DeriveFn ShopifyOrder := fun _ order =>
  return subRecord (shopifyAddressToNs order.billingAddress none)

/-- The standard derive registry. -/
def defaultDeriveRegistry (dates : Dates) : DeriveRegistry ShopifyOrder := fun name =>
  [("parseShopifyDate", parseShopifyDate dates), ("shopifyLineToItemLine", shopifyLineToItemLine),
    ("shopifyShippingToLine", shopifyShippingToLine),
    ("extractShopifyOrderId", extractShopifyOrderId),
    ("shopifyShippingAddressToNs", shopifyShippingAddressToNs),
    ("shopifyBillingAddressToNs", shopifyBillingAddressToNs)].lookup name

/-! ## The default order map -/

/-- The header map: the built-in mappings, and then those of the connection. -/
def buildDefaultOrderHeaderMap (connection : Connection) : List Mapping :=
  [.constant (.str connection.nsSubsidiary) "subsidiary",
    .constant (.str "B") "orderStatus",
    .direct "name" "tranId",
    .direct "id" "externalId",
    .derive "parseShopifyDate" [("field", .str "processedAt")] "tranDate",
    .lookup "lookup_currency" "currencyCode" "currency" true,
    .lookup "lookup_payment_method" "transactions.0.gateway" "paymentMethod" false,
    .lookup "lookup_ship_method" "shippingLines.0.title" "shipMethod" false,
    .derive "shopifyShippingAddressToNs" [] "shippingAddress",
    .derive "shopifyBillingAddressToNs" [] "billingAddress"] ++
    ((truthy connection.nsLocation).toList.map fun location =>
      Mapping.constant (.str location) "location") ++
    connection.extraOrderHeaderMappings

def buildDefaultLineItemsMap : Mapping := .derive "shopifyLineToItemLine" [] "item"

def buildDefaultShippingMap (connection : Connection) : Mapping :=
  .derive "shopifyShippingToLine" (whenTruthy "defaultShipItemId" connection.defaultShipItemId)
    "shipping"

end DpIntegrator
