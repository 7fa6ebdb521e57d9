import DpIntegrator.Core.Types

/-!
# Shopify orders

The order as the gateway returns it, and the plain value it is when it is archived or
read by path.
-/

namespace DpIntegrator

/-- Values with a plain JavaScript form. -/
class ToJs (α : Type) where
  toJs : α → Js.Value

export ToJs (toJs)

instance : ToJs Js.Value := ⟨id⟩
instance : ToJs String := ⟨.str⟩
instance : ToJs Bool := ⟨.bool⟩
instance : ToJs Js.Number := ⟨.num⟩

instance {α : Type} [ToJs α] : ToJs (List α) := ⟨fun items => .arr (items.map toJs)⟩

/-- A property. -/
def field {α : Type} [ToJs α] (key : String) (v : α) : Js.Fields := [(key, toJs v)]

theorem get?_field {α : Type} [ToJs α] (key key' : String) (v : α) :
    Js.Fields.get? (field key v) key' = if key = key' then some (toJs v) else none :=
  Js.Fields.get?_cons ..

/-- A property that is left out where the value is absent. -/
def optional {α : Type} [ToJs α] (key : String) (v : Option α) : Js.Fields :=
  v.toList.map fun v => (key, toJs v)

/-- A value or `null`. -/
def orNull {α : Type} [ToJs α] : Option α → Js.Value
  | some v => toJs v
  | none => .null

/-- A text that is present and not empty. -/
def truthy (s : Option String) : Option String := s.filter (· ≠ "")

structure MoneyV2 where
  amount : String
  currencyCode : String
  deriving DecidableEq, Repr

instance : ToJs MoneyV2 :=
  ⟨fun m => .obj (field "amount" m.amount ++ field "currencyCode" m.currencyCode)⟩

structure ShopifyAddress where
  id : Option String := none
  firstName : Option String := none
  lastName : Option String := none
  company : Option String := none
  address1 : Option String := none
  address2 : Option String := none
  city : Option String := none
  province : Option String := none
  provinceCode : Option String := none
  country : Option String := none
  countryCode : Option String := none
  zip : Option String := none
  phone : Option String := none
  deriving DecidableEq, Repr

instance : ToJs ShopifyAddress :=
  ⟨fun a => .obj (optional "id" a.id ++ optional "firstName" a.firstName ++
    optional "lastName" a.lastName ++ optional "company" a.company ++
    optional "address1" a.address1 ++ optional "address2" a.address2 ++ optional "city" a.city ++
    optional "province" a.province ++ optional "provinceCode" a.provinceCode ++
    optional "country" a.country ++ optional "countryCode" a.countryCode ++
    optional "zip" a.zip ++ optional "phone" a.phone)⟩

structure ShopifyCustomer where
  id : String
  email : Option String := none
  firstName : Option String := none
  lastName : Option String := none
  defaultAddress : Option ShopifyAddress := none
  deriving DecidableEq, Repr

instance : ToJs ShopifyCustomer :=
  ⟨fun c => .obj (field "id" c.id ++ optional "email" c.email ++
    optional "firstName" c.firstName ++ optional "lastName" c.lastName ++
    optional "defaultAddress" c.defaultAddress)⟩

structure DiscountAllocation where
  allocatedAmount : MoneyV2
  discountTitle : Option String := none
  deriving DecidableEq, Repr

instance : ToJs DiscountAllocation :=
  ⟨fun d => .obj (field "allocatedAmount" d.allocatedAmount ++
    optional "discountTitle" d.discountTitle)⟩

structure ShopifyLineItem where
  id : String
  title : String
  variantId : Option String := none
  sku : Option String := none
  quantity : Js.Number
  originalUnitPrice : MoneyV2
  discountedTotal : MoneyV2
  discountAllocations : List DiscountAllocation := []
  deriving DecidableEq, Repr

instance : ToJs ShopifyLineItem :=
  ⟨fun l => .obj (field "id" l.id ++ field "title" l.title ++ optional "variantId" l.variantId ++
    optional "sku" l.sku ++ field "quantity" l.quantity ++
    field "originalUnitPrice" l.originalUnitPrice ++ field "discountedTotal" l.discountedTotal ++
    field "discountAllocations" l.discountAllocations)⟩

structure ShopifyTaxLine where
  title : String
  rate : Js.Number
  price : MoneyV2
  deriving DecidableEq, Repr

instance : ToJs ShopifyTaxLine :=
  ⟨fun t => .obj (field "title" t.title ++ field "rate" t.rate ++ field "price" t.price)⟩

structure ShopifyShippingLine where
  id : String
  title : String
  source : Option String := none
  carrierIdentifier : Option String := none
  price : MoneyV2
  taxLines : List ShopifyTaxLine := []
  deriving DecidableEq, Repr

instance : ToJs ShopifyShippingLine :=
  ⟨fun s => .obj (field "id" s.id ++ field "title" s.title ++ optional "source" s.source ++
    optional "carrierIdentifier" s.carrierIdentifier ++ field "price" s.price ++
    field "taxLines" s.taxLines)⟩

/-- A transaction; `kind` and `status` are texts of the Shopify API. -/
structure ShopifyTransaction where
  id : String
  kind : String
  status : String
  gateway : String
  amount : MoneyV2
  processedAt : String
  deriving DecidableEq, Repr

instance : ToJs ShopifyTransaction :=
  ⟨fun t => .obj (field "id" t.id ++ field "kind" t.kind ++ field "status" t.status ++
    field "gateway" t.gateway ++ field "amount" t.amount ++ field "processedAt" t.processedAt)⟩

inductive ShopifyFinancialStatus
  | pending
  | authorized
  | partiallyPaid
  | paid
  | partiallyRefunded
  | refunded
  | voided
  deriving DecidableEq, Repr

def ShopifyFinancialStatus.text : ShopifyFinancialStatus → String
  | .pending => "pending"
  | .authorized => "authorized"
  | .partiallyPaid => "partially_paid"
  | .paid => "paid"
  | .partiallyRefunded => "partially_refunded"
  | .refunded => "refunded"
  | .voided => "voided"

instance : ToJs ShopifyFinancialStatus := ⟨fun s => .str s.text⟩

structure ShopifyOrder where
  id : String
  name : String
  createdAt : String
  updatedAt : String
  processedAt : String
  currencyCode : String
  totalPrice : MoneyV2
  subtotalPrice : MoneyV2
  totalTax : MoneyV2
  totalShippingPrice : MoneyV2
  totalDiscounts : MoneyV2
  financialStatus : ShopifyFinancialStatus
  fulfillmentStatus : Option String := none
  test : Bool := false
  fraudHold : Bool := false
  customer : Option ShopifyCustomer := none
  lineItems : List ShopifyLineItem
  shippingLines : List ShopifyShippingLine := []
  taxLines : List ShopifyTaxLine := []
  transactions : List ShopifyTransaction := []
  billingAddress : Option ShopifyAddress := none
  shippingAddress : Option ShopifyAddress := none
  locationId : Option String := none
  note : Option String := none
  tags : Option (List String) := none
  deriving DecidableEq, Repr

/-- The properties of an order. -/
def ShopifyOrder.fields (o : ShopifyOrder) : Js.Fields :=
  field "id" o.id ++ field "name" o.name ++ field "createdAt" o.createdAt ++
    field "updatedAt" o.updatedAt ++ field "processedAt" o.processedAt ++
    field "currencyCode" o.currencyCode ++ field "totalPrice" o.totalPrice ++
    field "subtotalPrice" o.subtotalPrice ++ field "totalTax" o.totalTax ++
    field "totalShippingPrice" o.totalShippingPrice ++ field "totalDiscounts" o.totalDiscounts ++
    field "financialStatus" o.financialStatus ++
    field "fulfillmentStatus" (orNull o.fulfillmentStatus) ++ field "test" o.test ++
    field "fraudHold" o.fraudHold ++ field "customer" (orNull o.customer) ++
    field "lineItems" o.lineItems ++ field "shippingLines" o.shippingLines ++
    field "taxLines" o.taxLines ++ field "transactions" o.transactions ++
    optional "billingAddress" o.billingAddress ++ optional "shippingAddress" o.shippingAddress ++
    optional "locationId" o.locationId ++ optional "note" o.note ++ optional "tags" o.tags

instance : ToJs ShopifyOrder := ⟨fun o => .obj o.fields⟩

theorem toJs_order (order : ShopifyOrder) : toJs order = .obj order.fields := rfl

/-- What the catch-up poller needs of an order. -/
structure OrderSummary where
  id : String
  updatedAt : String
  deriving DecidableEq, Repr

end DpIntegrator
