import DpIntegrator.Shopify.Order
import DpIntegrator.Js.Text

/-!
# Orders as Shopify returns them

The document that the order query returns, and its translation into the order model. Every
amount of the document is a bag, of which the query asks for the presentment money. The
currency code of the order is that of the shop.
-/

namespace DpIntegrator

/-! ## Documents -/

structure GraphQLMoneyBag where
  presentmentMoney : MoneyV2
  deriving DecidableEq, Repr

structure GraphQLEdge (α : Type) where
  node : α
  deriving DecidableEq, Repr

structure GraphQLEdges (α : Type) where
  edges : List (GraphQLEdge α)
  deriving DecidableEq, Repr

structure GraphQLAddress where
  id : Option String := none
  firstName : Option String := none
  lastName : Option String := none
  company : Option String := none
  address1 : Option String := none
  address2 : Option String := none
  city : Option String := none
  province : Option String := none
  provinceCode : Option String := none
  country : Option String := none
  countryCode : Option String := none
  zip : Option String := none
  phone : Option String := none
  deriving DecidableEq, Repr

structure GraphQLCustomer where
  id : String
  email : Option String := none
  firstName : Option String := none
  lastName : Option String := none
  defaultAddress : Option GraphQLAddress := none
  deriving DecidableEq, Repr

structure GraphQLVariant where
  id : String
  deriving DecidableEq, Repr

structure GraphQLDiscountApplication where
  code : Option String
  deriving DecidableEq, Repr

structure GraphQLDiscountAllocation where
  allocatedAmountSet : GraphQLMoneyBag
  discountApplication : Option GraphQLDiscountApplication := none
  deriving DecidableEq, Repr

structure GraphQLLineItem where
  id : String
  title : String
  sku : Option String := none
  quantity : Js.Number
  variant : Option GraphQLVariant := none
  originalUnitPriceSet : GraphQLMoneyBag
  discountedTotalSet : GraphQLMoneyBag
  discountAllocations : List GraphQLDiscountAllocation := []
  deriving DecidableEq, Repr

structure GraphQLTaxLine where
  title : String
  rate : Js.Number
  priceSet : GraphQLMoneyBag
  deriving DecidableEq, Repr

structure GraphQLShippingLine where
  id : String
  title : String
  source : Option String := none
  carrierIdentifier : Option String := none
  originalPriceSet : GraphQLMoneyBag
  taxLines : List GraphQLTaxLine := []
  deriving DecidableEq, Repr

structure GraphQLTransaction where
  id : String
  kind : String
  status : String
  gateway : String
  processedAt : String
  amountSet : GraphQLMoneyBag
  deriving DecidableEq, Repr

structure GraphQLLocation where
  id : String
  deriving DecidableEq, Repr

structure GraphQLRisk where
  recommendation : Option String
  deriving DecidableEq, Repr

structure GraphQLOrder where
  id : String
  name : String
  createdAt : String
  updatedAt : String
  processedAt : String
  currencyCode : String
  displayFinancialStatus : String
  displayFulfillmentStatus : Option String := none
  test : Bool := false
  note : Option String := none
  tags : Option (List String) := none
  totalPriceSet : GraphQLMoneyBag
  subtotalPriceSet : GraphQLMoneyBag
  totalTaxSet : GraphQLMoneyBag
  totalShippingPriceSet : GraphQLMoneyBag
  totalDiscountsSet : GraphQLMoneyBag
  customer : Option GraphQLCustomer := none
  billingAddress : Option GraphQLAddress := none
  shippingAddress : Option GraphQLAddress := none
  lineItems : GraphQLEdges GraphQLLineItem
  shippingLines : GraphQLEdges GraphQLShippingLine
  taxLines : List GraphQLTaxLine := []
  transactions : List GraphQLTransaction := []
  physicalLocation : Option GraphQLLocation := none
  risk : Option GraphQLRisk := none
  deriving DecidableEq, Repr

/-! ## Translation -/

def money (bag : GraphQLMoneyBag) : MoneyV2 where
  amount := bag.presentmentMoney.amount
  currencyCode := bag.presentmentMoney.currencyCode

/-- A status that is not known is pending. -/
def mapFinancialStatus (s : String) : ShopifyFinancialStatus :=
  match Js.toLowerCase s with
  | "pending" => .pending
  | "authorized" => .authorized
  | "partially_paid" => .partiallyPaid
  | "paid" => .paid
  | "partially_refunded" => .partiallyRefunded
  | "refunded" => .refunded
  | "voided" => .voided
  | _ => .pending

/-- The text in lower case, if it is one of `known`. -/
def knownText (known : List String) (s : String) : Option String :=
  let lc := Js.toLowerCase s
  if lc ∈ known then some lc else none

def mapFulfillmentStatus (s : Option String) : Option String :=
  s.bind (knownText ["unfulfilled", "partial", "fulfilled", "restocked"])

def isFraudHeld (risk : Option GraphQLRisk) : Bool :=
  match risk.bind GraphQLRisk.recommendation with
  | some rec => rec ≠ "ACCEPT"
  | none => false

def mapAddress (a : GraphQLAddress) : ShopifyAddress where
  id := a.id
  firstName := a.firstName
  lastName := a.lastName
  company := a.company
  address1 := a.address1
  address2 := a.address2
  city := a.city
  province := a.province
  provinceCode := a.provinceCode
  country := a.country
  countryCode := a.countryCode
  zip := a.zip
  phone := a.phone

def mapCustomer (c : GraphQLCustomer) : ShopifyCustomer where
  id := c.id
  email := c.email
  firstName := c.firstName
  lastName := c.lastName
  defaultAddress := c.defaultAddress.map mapAddress

def mapDiscountAllocation (a : GraphQLDiscountAllocation) : DiscountAllocation where
  allocatedAmount := money a.allocatedAmountSet
  discountTitle := truthy (a.discountApplication.bind GraphQLDiscountApplication.code)

def mapLineItem (n : GraphQLLineItem) : ShopifyLineItem where
  id := n.id
  title := n.title
  variantId := truthy (n.variant.map GraphQLVariant.id)
  sku := n.sku
  quantity := n.quantity
  originalUnitPrice := money n.originalUnitPriceSet
  discountedTotal := money n.discountedTotalSet
  discountAllocations := n.discountAllocations.map mapDiscountAllocation

def mapTaxLine (t : GraphQLTaxLine) : ShopifyTaxLine where
  title := t.title
  rate := t.rate
  price := money t.priceSet

def mapShippingLine (n : GraphQLShippingLine) : ShopifyShippingLine where
  id := n.id
  title := n.title
  source := n.source
  carrierIdentifier := n.carrierIdentifier
  price := money n.originalPriceSet
  taxLines := n.taxLines.map mapTaxLine

/-- A kind that is not known is a change. -/
def mapTransactionKind (k : String) : String :=
  (knownText ["sale", "authorization", "capture", "refund", "void", "change"] k).getD "change"

/-- A status that is not known is an error. -/
def mapTransactionStatus (s : String) : String :=
  (knownText ["success", "pending", "failure", "error"] s).getD "error"

def mapTransaction (t : GraphQLTransaction) : ShopifyTransaction where
  id := t.id
  kind := mapTransactionKind t.kind
  status := mapTransactionStatus t.status
  gateway := t.gateway
  amount := money t.amountSet
  processedAt := t.processedAt

def mapGraphQLOrder (o : GraphQLOrder) : ShopifyOrder where
  id := o.id
  name := o.name
  createdAt := o.createdAt
  updatedAt := o.updatedAt
  processedAt := o.processedAt
  currencyCode := o.currencyCode
  totalPrice := money o.totalPriceSet
  subtotalPrice := money o.subtotalPriceSet
  totalTax := money o.totalTaxSet
  totalShippingPrice := money o.totalShippingPriceSet
  totalDiscounts := money o.totalDiscountsSet
  financialStatus := mapFinancialStatus o.displayFinancialStatus
  fulfillmentStatus := mapFulfillmentStatus o.displayFulfillmentStatus
  test := o.test
  fraudHold := isFraudHeld o.risk
  customer := o.customer.map mapCustomer
  lineItems := o.lineItems.edges.map fun e => mapLineItem e.node
  shippingLines := o.shippingLines.edges.map fun e => mapShippingLine e.node
  taxLines := o.taxLines.map mapTaxLine
  transactions := o.transactions.map mapTransaction
  billingAddress := o.billingAddress.map mapAddress
  shippingAddress := o.shippingAddress.map mapAddress
  locationId := o.physicalLocation.map GraphQLLocation.id
  note := truthy o.note
  tags := o.tags.filter (· ≠ [])

end DpIntegrator
