import DpIntegrator.Js.Value
import DpIntegrator.Js.Text

/-!
# Errors

Error classes, and the values that the code throws and catches. Of an error object
the model keeps the properties that the code reads.
-/

namespace DpIntegrator

/-- How the handler should treat a failure. -/
inductive ErrorClass
  | transient
  | data
  | auth
  | unmappedConstruct
  | unknown
  deriving DecidableEq, Repr

/-- The text of an error class on records and attempts. -/
def ErrorClass.text : ErrorClass → String
  | .transient => "transient"
  | .data => "data"
  | .auth => "auth"
  | .unmappedConstruct => "unmapped_construct"
  | .unknown => "unknown"

/-- The structured body of a NetSuite error: an object whose list of detailed errors,
if it has one, is an array. -/
structure NetSuiteErrorDetails where
  fields : Js.Fields
  errorDetails_array : ∀ v, fields.get? "o:errorDetails" = some v →
    v.isNullish = true ∨ ∃ items, v = .arr items

/-- What netsuite-sdk puts on a `NetSuiteError` besides its name and message. -/
structure NetSuiteError where
  status : ℕ
  code : Option String
  details : Option NetSuiteErrorDetails
  body : Option Js.Value

/-- The classes of error objects that the code tells apart by `instanceof` and by the
check of netsuite-sdk. -/
inductive ErrorKind
  | plain
  | orderNotFound
  | netSuite (info : NetSuiteError)

/-- The raw NetSuite response that the gateway attaches to the errors it wraps. -/
structure RawNsResponse where
  status : Option ℕ
  body : Option Js.Value

/-- An error object. -/
structure JsError where
  name : String := "Error"
  message : String
  stack : Option String := none
  kind : ErrorKind := .plain
  rawNsResponse : Option RawNsResponse := none

/-- A thrown value: an error object, another value with the text `String` gives it,
or one of the two values that have no properties. -/
inductive Thrown
  | error (e : JsError)
  | value (text : String)
  | null
  | undefined

/-- `new Error(message)`. -/
def newError (message : String) : Thrown := .error { message }

/-- A `TypeError` that the language itself throws. -/
def typeError (message : String) : Thrown := .error { name := "TypeError", message }

/-- `new OrderNotFoundError(orderGid, shopDomain)`. -/
def orderNotFoundError (orderGid shopDomain : String) : Thrown :=
  .error
    { name := "OrderNotFoundError"
      message := "order '" ++ orderGid ++ "' not found on " ++ shopDomain
      kind := .orderNotFound }

/-- `err instanceof Error ? err.message : String(err)`. -/
def Thrown.detail : Thrown → String
  | .error e => e.message
  | .value text => text
  | .null => "null"
  | .undefined => "undefined"

/-- `err instanceof Error ? err.stack : undefined`. -/
def Thrown.stack : Thrown → Option String
  | .error e => e.stack
  | _ => none

/-- `err instanceof OrderNotFoundError`. -/
def Thrown.isOrderNotFound : Thrown → Bool
  | .error { kind := .orderNotFound, .. } => true
  | _ => false

/-- A sequence that returns went through both parts. -/
theorem bind_eq_ok {ε α β : Type} {x : Except ε α} {f : α → Except ε β} {b : β} :
    x >>= f = .ok b ↔ ∃ a, x = .ok a ∧ f a = .ok b := by
  cases x with
  | error e =>
    constructor
    · intro h
      cases h
    · rintro ⟨a, h, _⟩
      cases h
  | ok a =>
    constructor
    · intro h
      exact ⟨a, rfl, h⟩
    · rintro ⟨a', h, hf⟩
      cases h
      exact hf

end DpIntegrator
