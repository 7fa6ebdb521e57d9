import DpIntegrator.Shopify.Order

/-!
# Eligibility

The predicate that decides whether an order that was fetched anew should be imported.
-/

namespace DpIntegrator

inductive EligibilityReason
  | testOrder
  | fraudHold
  | voided
  | pendingPayment
  | noLineItems
  | disallowedTopic
  | updateBeforeCreate
  deriving DecidableEq, Repr

def EligibilityReason.text : EligibilityReason → String
  | .testOrder => "test_order"
  | .fraudHold => "fraud_hold"
  | .voided => "voided"
  | .pendingPayment => "pending_payment"
  | .noLineItems => "no_line_items"
  | .disallowedTopic => "disallowed_topic"
  | .updateBeforeCreate => "update_before_create"

inductive EligibilityResult
  | eligible
  | ineligible (reason : EligibilityReason) (detail : Option String)
  deriving DecidableEq, Repr

structure EligibilityOptions where
  allowedTopics : Option (List String) := none
  allowedFinancialStatuses : Option (List ShopifyFinancialStatus) := none

def defaultFinancialStatuses : List ShopifyFinancialStatus := [.paid, .authorized, .partiallyPaid]

/-- `JSON.stringify` of an array of texts. -/
def stringifyTexts (texts : List String) : String := (Js.stringify (toJs texts)).getD ""

/-- Should this order be imported at all? -/
def checkEligibility (order : ShopifyOrder) (topic : String) (options : EligibilityOptions) :
    EligibilityResult :=
  let allowedStatuses := options.allowedFinancialStatuses.getD defaultFinancialStatuses
  if order.test then .ineligible .testOrder none
  else if order.fraudHold then .ineligible .fraudHold none
  else if order.financialStatus = .voided then .ineligible .voided none
  else if order.financialStatus ∉ allowedStatuses then
    .ineligible .pendingPayment (some ("financialStatus=" ++ order.financialStatus.text ++
      " not in " ++ stringifyTexts (allowedStatuses.map ShopifyFinancialStatus.text)))
  else if order.lineItems = [] then .ineligible .noLineItems none
  else match options.allowedTopics with
    | some topics =>
      if topic ∈ topics then .eligible
      else .ineligible .disallowedTopic
        (some ("topic=" ++ topic ++ " not in " ++ stringifyTexts topics))
    | none => .eligible

/-- Without options the topic plays no part: eligible are the orders that are live, not
on hold, paid at least in part or authorized, and have a line. -/
theorem checkEligibility_eq_eligible {order : ShopifyOrder} {topic : String} :
    checkEligibility order topic {} = .eligible ↔ order.test = false ∧ order.fraudHold = false ∧
      order.financialStatus ∈ defaultFinancialStatuses ∧ order.lineItems ≠ [] := by
  unfold checkEligibility
  by_cases htest : order.test = true
  · simp [htest]
  by_cases hhold : order.fraudHold = true
  · simp [htest, hhold]
  by_cases hvoided : order.financialStatus = .voided
  · simp [htest, hhold, hvoided, defaultFinancialStatuses]
  by_cases hstatus : order.financialStatus ∈ defaultFinancialStatuses
  · by_cases hlines : order.lineItems = [] <;> simp [htest, hhold, hvoided, hstatus, hlines]
  · simp [htest, hhold, hvoided, hstatus]

/-- The answer about an order is the same under every topic. -/
theorem checkEligibility_topic (order : ShopifyOrder) (topic topic' : String) :
    checkEligibility order topic {} = checkEligibility order topic' {} := by
  unfold checkEligibility
  rfl

end DpIntegrator
