import DpIntegrator.NetSuite.DeriveFns

/-!
# The payload builder

Assembles the NetSuite payload of an order from the header map, the line derivations
and the order discount, and wraps plain ids as references.
-/

namespace DpIntegrator

open Effects

/-- The properties of an order payload. -/
abbrev NsOrderPayload := Js.Fields

/-! ## References -/

def headerRefFields : List String :=
  ["subsidiary", "entity", "currency", "location", "orderStatus", "paymentMethod", "customForm",
    "terms", "employee", "salesRep", "nexus", "shipMethod", "discountItem"]

def lineRefFields : List String :=
  ["item", "taxCode", "location", "units", "price", "department", "class"]

/-- Wrap a plain id as a reference; everything else passes. -/
def wrapRef : Js.Value → Js.Value
  | .str s => .obj [("id", .str s)]
  | .num n => .obj [("id", .str n.toText)]
  | v => v

/-- Wrap the references of a line. -/
def wrapLineRefs (line : Js.Value) : Except Thrown Js.Value :=
  match line.entries? with
  | none => .error (typeError "Cannot convert undefined or null to object")
  | some entries =>
    .ok (.obj (entries.map fun (k, v) => (k, if k ∈ lineRefFields then wrapRef v else v)))

/-- What becomes of one header property. -/
def wrapEntry (key : String) (value : Js.Value) : Except Thrown Js.Fields := do
  match value with
  | .undefined => return []
  | .null =>
    -- a null reference is kept: it asks NetSuite to clear the field
    return if key ∈ headerRefFields ∨ key = "item" ∨ key = "shipping" then [(key, .null)] else []
  | value =>
    if key = "item" ∨ key = "shipping" then
      match value with
      | .arr lines => return [(key, .obj [("items", .arr (← lines.mapM wrapLineRefs))])]
      | value => return [(key, value)]
    else if key ∈ headerRefFields then return [(key, wrapRef value)]
    else return [(key, value)]

/-- Wrap every known reference of a payload and leave out the fields without content. -/
def wrapNsReferences (raw : Js.Fields) : Except Thrown NsOrderPayload := do
  return (← raw.mapM fun (key, value) => wrapEntry key value).flatten

/-! ## Discount -/

/-- The header fields of the order discount. Without a discount item a discounted order
parks. -/
def mapOrderDiscount (connection : Connection) (order : ShopifyOrder) : MappingResult Js.Fields :=
  let amount := Js.parseFloat order.totalDiscounts.amount
  if !amount.isFinite || !(Js.Number.lt 0 amount) then .ok []
  else match truthy connection.defaultDiscountItemId with
    | none =>
      .parked
        { detail := "order carries totalDiscounts=" ++ amount.toFixed2 ++ " " ++
            order.totalDiscounts.currencyCode ++ " but connection '" ++ connection.connectionId ++
            "' has no defaultDiscountItemId — set the NS Discount item internal id on the " ++
            "connection (must be \"Apply Before Tax\") and replay"
          construct := some "order_discount" }
    | some item =>
      .ok [("discountItem", .str item),
        ("discountRate", .num (Js.toNumber (-amount).toFixed2))]

/-! ## Assembly -/

/-- The first header field that must be a text and is not. -/
def missingHeaderField (header : Js.Fields) : Option String :=
  ["subsidiary", "externalId", "tranId"].find? fun required =>
    ((header.get? required).getD .undefined).typeOf ≠ "string"

/-- The payload before references are wrapped. -/
def rawPayload (header : Js.Fields) (customerInternalId : String) (lineItems : List Js.Value)
    (shippingLines : Js.Value) (discountFields : Js.Fields) : Js.Fields :=
  let shipping : Js.Fields :=
    match shippingLines with
    | .arr (line :: lines) => [("shipping", .arr (line :: lines))]
    | _ => []
  header.spread ([("entity", .str customerInternalId), ("item", .arr lineItems)] ++ shipping ++
    discountFields)

structure BuildOrderPayloadArgs where
  connection : Connection
  order : ShopifyOrder
  customerInternalId : String
  lookups : LookupResolver
  derives : Option (DeriveRegistry ShopifyOrder)
  headerOverride : Option (List Mapping) := none

/-- Assemble the parts that the mappings gave. -/
def assemblePayload (args : BuildOrderPayloadArgs) (header : Js.Fields)
    (lineItems : List Js.Value) (shippingLines : Js.Value) :
    Except Thrown (MappingResult NsOrderPayload) := do
  match missingHeaderField header with
  | some required =>
    return .parked { detail := required ++ " missing from header map", construct := some required }
  | none =>
    match mapOrderDiscount args.connection args.order with
    | .parked reason => return .parked reason
    | .ok discountFields =>
      return .ok (← wrapNsReferences
        (rawPayload header args.customerInternalId lineItems shippingLines discountFields))

def buildOrderPayload (dates : Dates) (args : BuildOrderPayloadArgs) :
    Async (MappingResult NsOrderPayload) := do
  let ctx : EvaluatorContext ShopifyOrder :=
    { lookups := args.lookups, derives := args.derives.getD (defaultDeriveRegistry dates) }
  let headerMappings := args.headerOverride.getD (buildDefaultOrderHeaderMap args.connection)
  match ← evaluate args.order headerMappings ctx with
  | .parked reason => return .parked reason
  | .ok header =>
    match ← evaluate args.order [buildDefaultLineItemsMap] ctx with
    | .parked reason => return .parked reason
    | .ok lines =>
      match (lines.get? "item").getD .undefined with
      | .arr [] =>
        return .parked
          { detail := "order has no mappable line items", construct := some "lineItems" }
      | .arr lineItems =>
        match ← evaluate args.order [buildDefaultShippingMap args.connection] ctx with
        | .parked reason => return .parked reason
        | .ok shipping =>
          Async.ofExcept (assemblePayload args header lineItems
            ((shipping.get? "shipping").getD .undefined))
      | _ =>
        return .parked
          { detail := "line items derive returned non-array"
            construct := some "shopifyLineToItemLine" }

/-- The NetSuite record type of the orders of a connection. -/
def netsuiteOrderRecordType (connection : Connection) : RecordType :=
  match connection.orderTarget with
  | .salesOrder => .salesorder
  | .cashSale => .cashsale

@[simp] theorem netsuiteOrderRecordType_isOrder (connection : Connection) :
    (netsuiteOrderRecordType connection).isOrder = true := by
  unfold netsuiteOrderRecordType
  cases connection.orderTarget <;> rfl

end DpIntegrator
