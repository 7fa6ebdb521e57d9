import DpIntegrator.NetSuite.PayloadBuilder

/-!
# Tax fields and the balancing line

The header tax fields of the connection's tax engine, and the line that makes the
total that NetSuite will compute meet the total of the order, within a tolerance.
-/

namespace DpIntegrator

/-! ## Tax -/

/-- The header tax fields of the legacy engine: the total, and the first tax line. -/
def legacyOrderTax (order : ShopifyOrder) : Js.Fields :=
  match order.taxLines with
  | [] =>
    if order.totalTax.amount = "0.00" then [] else [("taxsubtotal", .str order.totalTax.amount)]
  | primary :: _ =>
    [("taxsubtotal", .str order.totalTax.amount), ("taxitem", .str primary.title),
      ("taxrate", .num primary.rate)]

/-- `strategyFor(connection).buildOrderTax(connection, order)`: the header tax fields.
SuiteTax computes the tax itself. -/
def buildOrderTax (connection : Connection) (order : ShopifyOrder) : Js.Fields :=
  match connection.taxEngine with
  | .suitetax => []
  | .legacy => legacyOrderTax order

/-- Layer the tax fields onto a payload. -/
def applyTaxPayloadHeader (payload : NsOrderPayload) (headerTax : Js.Fields) : NsOrderPayload :=
  payload.spread headerTax

/-! ## Amounts -/

/-- `Math.round(n * 100) / 100`. -/
def round2 (n : Js.Number) : Js.Number := (n * 100).round / 100

def parseAmount (s : String) : Except Thrown Js.Number :=
  let n := Js.parseFloat s
  if n.isNaN then .error (newError ("balancing: cannot parse amount '" ++ s ++ "' as a number"))
  else .ok (round2 n)

/-- Add up amounts, each rounded to cents; values that are no amounts are passed over. -/
def addAmounts : List Js.Value → Js.Number → Except Thrown Js.Number
  | [], total => .ok total
  | .str s :: rest, total => do addAmounts rest (total + (← parseAmount s))
  | .num n :: rest, total => addAmounts rest (total + round2 n)
  | _ :: rest, total => addAmounts rest total

def sumAmounts (values : List Js.Value) : Except Thrown Js.Number := do
  return round2 (← addAmounts values 0)

/-- `bag.items`, where it is an array of lines. -/
def linesOf (bag : Js.Value) : Except Thrown (List Js.Value) :=
  match bag.prop "items" with
  | .arr lines => .ok lines
  | _ => .error (typeError "items.map is not a function")

/-- `line['amount']` of every line. -/
def amountsOf (lines : List Js.Value) : Except Thrown (List Js.Value) :=
  lines.mapM fun line =>
    if line.isNullish then .error (typeError "Cannot read properties of null (reading 'amount')")
    else .ok (line.prop "amount")

/-! ## Balancing -/

structure BalancingOptions where
  toleranceAmount : Js.Number
  balancingItemId : String

def defaultBalancing : BalancingOptions where
  toleranceAmount := .fin (5 / 100)
  balancingItemId := "6540"

structure BalancingDiagnostics where
  shopifyTotal : Js.Number
  nsLinesTotal : Js.Number
  nsTaxTotal : Js.Number
  nsShippingTotal : Js.Number
  orderDiscounts : Js.Number
  diff : Js.Number
  applied : Bool

structure BalancedPayload where
  payload : NsOrderPayload
  diagnostics : BalancingDiagnostics

/-- The lines of a payload's item sublist. -/
def itemLines (payload : NsOrderPayload) : Except Thrown (List Js.Value) :=
  linesOf ((payload.get? "item").getD .undefined)

/-- The lines of a payload's shipping sublist, if it has one. -/
def shippingLines (payload : NsOrderPayload) : Except Thrown (List Js.Value) :=
  let bag := (payload.get? "shipping").getD .undefined
  if bag.isNullish ∨ (bag.prop "items").isNullish then .ok [] else linesOf bag

def balancingLine (options : BalancingOptions) (diff : Js.Number) : Js.Value :=
  .obj [("item", .obj [("id", .str options.balancingItemId)]), ("quantity", .num 1),
    ("rate", .num diff), ("amount", .num diff), ("description", .str "Rounding adjustment")]

/-- The totals of a payload and an order, and how far they differ. -/
def balancingDiagnostics (payload : NsOrderPayload) (order : ShopifyOrder) :
    Except Thrown BalancingDiagnostics := do
  let shopifyTotal ← parseAmount order.totalPrice.amount
  let nsTaxTotal ← parseAmount order.totalTax.amount
  let nsShippingTotal ← sumAmounts (← amountsOf (← shippingLines payload))
  let nsLinesTotal ← sumAmounts (← amountsOf (← itemLines payload))
  let orderDiscounts ← parseAmount order.totalDiscounts.amount
  let nsTotal := round2 (nsLinesTotal + nsShippingTotal + nsTaxTotal - orderDiscounts)
  let diff := round2 (shopifyTotal - nsTotal)
  return {
    shopifyTotal, nsLinesTotal, nsTaxTotal, nsShippingTotal, orderDiscounts, diff
    applied := diff ≠ 0 }

/-- Append the balancing line that closes the difference, or park. -/
def applyBalancing (payload : NsOrderPayload) (order : ShopifyOrder) (options : BalancingOptions) :
    Except Thrown (MappingResult BalancedPayload) := do
  let d ← balancingDiagnostics payload order
  if options.toleranceAmount.lt d.diff.abs then
    return .parked
      { detail := "totals differ by " ++ d.diff.toFixed2 ++ " " ++ order.totalPrice.currencyCode ++
          " (tolerance " ++ options.toleranceAmount.toFixed2 ++
          "); refusing to book until reconciled"
        construct := some "balancing"
        evidence := some [("shopifyTotal", .num d.shopifyTotal),
          ("nsLinesTotal", .num d.nsLinesTotal), ("nsShippingTotal", .num d.nsShippingTotal),
          ("nsTaxTotal", .num d.nsTaxTotal), ("orderDiscounts", .num d.orderDiscounts),
          ("diff", .num d.diff)] }
  else if d.diff = 0 then return .ok { payload, diagnostics := d }
  else
    let lines ← itemLines payload
    return .ok
      { payload := payload.set "item"
          (.obj [("items", .arr (lines ++ [balancingLine options d.diff]))])
        diagnostics := d }

end DpIntegrator
