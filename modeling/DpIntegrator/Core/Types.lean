import DpIntegrator.Core.Errors

/-!
# Shared types

Environments, the parts of a dedup key, per-connection configuration with its field
mappings, and the messages on the order queue.
-/

namespace DpIntegrator

inductive Environment
  | dev
  | sandbox
  | prod
  deriving DecidableEq, Repr

namespace Environment

def text : Environment → String
  | .dev => "dev"
  | .sandbox => "sandbox"
  | .prod => "prod"

/-- The environment that a text names, if it names one. -/
def ofText? (s : String) : Option Environment :=
  if s = "dev" then some .dev else if s = "sandbox" then some .sandbox
  else if s = "prod" then some .prod else none

@[simp] theorem ofText?_text (e : Environment) : ofText? e.text = some e := by
  cases e <;> decide

theorem ofText?_eq_some {s : String} {e : Environment} (h : ofText? s = some e) : s = e.text := by
  unfold ofText? at h
  split at h
  · cases h
    assumption
  · split at h
    · cases h
      assumption
    · split at h
      · cases h
        assumption
      · cases h

end Environment

/-- The entity types tracked in `entity_xref`. -/
inductive EntityType
  | order
  | customer
  | refund
  | cancellation
  | fulfillment
  | item
  deriving DecidableEq, Repr

def EntityType.text : EntityType → String
  | .order => "order"
  | .customer => "customer"
  | .refund => "refund"
  | .cancellation => "cancellation"
  | .fulfillment => "fulfillment"
  | .item => "item"

/-- Source and target systems. -/
inductive System
  | shopify
  | netsuite
  deriving DecidableEq, Repr

def System.text : System → String
  | .shopify => "shopify"
  | .netsuite => "netsuite"

inductive TaxEngine
  | suitetax
  | legacy
  deriving DecidableEq, Repr

inductive OrderTarget
  | salesOrder
  | cashSale
  deriving DecidableEq, Repr

/-! ## Field mappings -/

/-- A field mapping of a connection. Mappings of a connection are configuration that
is not checked when it is read: `malformed` is an entry that is no mapping, with the
message of the `TypeError` that evaluating it raises. -/
inductive Mapping
  | direct (source target : String)
  | constant (value : Js.Value) (target : String)
  | lookup (table fromKey target : String) (required : Bool)
  | derive (fn : String) (args : Js.Fields) (target : String)
  | conditional (path : String) (equals : Js.Value) (then_ : Mapping) (else_ : Option Mapping)
  | malformed (message : String)

/-- The configuration of one Shopify store on one NetSuite account. -/
structure Connection where
  connectionId : String
  environment : Environment
  shopifyStore : String
  shopifyWebhookSecretRef : String
  nsAccountId : String
  nsSubsidiary : String
  nsLocation : Option String := none
  baseCurrency : String
  taxEngine : TaxEngine
  orderTarget : OrderTarget
  enabled : Bool
  extraOrderHeaderMappings : List Mapping := []
  defaultShipItemId : Option String := none
  defaultItemId : Option String := none
  defaultDiscountItemId : Option String := none
  writeTagsOnImport : Bool := false
  shopifyAddressIdField : Option String := none

/-! ## Dedup keys -/

structure DedupKeyParts where
  environment : Environment
  connectionId : String
  entityType : EntityType
  sourceSystem : System
  sourceId : String
  deriving DecidableEq, Repr

/-- The components of a dedup key, in order. -/
def DedupKeyParts.values (parts : DedupKeyParts) : List String :=
  [parts.environment.text, parts.connectionId, parts.entityType.text, parts.sourceSystem.text,
    parts.sourceId]

/-- The parts as an object, in the order in which every caller writes them. -/
def DedupKeyParts.toJs (parts : DedupKeyParts) : Js.Fields :=
  [("environment", .str parts.environment.text), ("connectionId", .str parts.connectionId),
    ("entityType", .str parts.entityType.text), ("sourceSystem", .str parts.sourceSystem.text),
    ("sourceId", .str parts.sourceId)]

/-- What is wrong with the first component that is empty or contains the separator;
`json` is the text of the whole argument. -/
def dedupKeyProblem (json : String) : List String → Option String
  | [] => none
  | v :: rest =>
    if v = "" then some ("dedupKey: empty/non-string component: " ++ json)
    else if Js.includes v "|" then
      some ("dedupKey: component contains reserved separator '|': " ++ v)
    else dedupKeyProblem json rest

/-- The canonical dedup key for `entity_xref`, of an argument that carries the properties
`more` after the parts. -/
def dedupKeyWith (parts : DedupKeyParts) (more : Js.Fields) : Except Thrown String :=
  match dedupKeyProblem ((Js.stringify (.obj (parts.toJs ++ more))).getD "") parts.values with
  | some message => .error (newError message)
  | none => .ok (String.intercalate "|" parts.values)

/-- `dedupKey(parts)`. -/
def dedupKey (parts : DedupKeyParts) : Except Thrown String := dedupKeyWith parts []

/-- The parts make a dedup key: no component is empty or contains the separator. -/
def DedupKeyParts.Valid (parts : DedupKeyParts) : Prop :=
  ∀ v ∈ parts.values, v ≠ "" ∧ Js.includes v "|" = false

theorem dedupKeyProblem_eq_none {json : String} {values : List String} :
    dedupKeyProblem json values = none ↔ ∀ v ∈ values, v ≠ "" ∧ Js.includes v "|" = false := by
  induction values with
  | nil => simp [dedupKeyProblem]
  | cons v rest ih =>
    rw [dedupKeyProblem, List.forall_mem_cons]
    by_cases hempty : v = ""
    · simp [hempty]
    · by_cases hsep : Js.includes v "|" = true <;> simp [hempty, hsep, ih]

/-- A key exists exactly for valid parts, whatever else the argument carries. -/
theorem dedupKeyWith_eq_ok {parts : DedupKeyParts} {more : Js.Fields} {key : String} :
    dedupKeyWith parts more = .ok key ↔
      parts.Valid ∧ key = String.intercalate "|" parts.values := by
  unfold dedupKeyWith
  cases hproblem : dedupKeyProblem _ parts.values with
  | none =>
    have hvalid : parts.Valid := dedupKeyProblem_eq_none.mp hproblem
    simp [hvalid, eq_comm]
  | some message =>
    have hinvalid : ¬parts.Valid := fun hvalid => by
      rw [dedupKeyProblem_eq_none.mpr hvalid] at hproblem
      cases hproblem
    simp [hinvalid]

/-- All callers of one key agree on it. -/
theorem dedupKey_of_dedupKeyWith {parts : DedupKeyParts} {more : Js.Fields} {key : String}
    (h : dedupKeyWith parts more = .ok key) : dedupKey parts = .ok key :=
  dedupKeyWith_eq_ok.mpr (dedupKeyWith_eq_ok.mp h)

/-! ## Messages -/

/-- The origin of a delivery. -/
inductive Source
  | webhook
  | catchup
  | replay
  deriving DecidableEq, Repr

def Source.text : Source → String
  | .webhook => "webhook"
  | .catchup => "catchup"
  | .replay => "replay"

/-- The body of an order message. -/
structure OrderWebhookMessage where
  environment : Environment
  connectionId : String
  shopDomain : String
  topic : String
  orderGid : String
  envelopeBlobUri : String
  receivedAt : String
  source : Option Source
  deriving DecidableEq, Repr

/-- The body of a message as it stands on the wire. -/
def OrderWebhookMessage.toJs (msg : OrderWebhookMessage) : Js.Value :=
  .obj ([("schemaVersion", .num 1), ("environment", .str msg.environment.text),
    ("connectionId", .str msg.connectionId), ("shopDomain", .str msg.shopDomain),
    ("topic", .str msg.topic), ("orderGid", .str msg.orderGid),
    ("envelopeBlobUri", .str msg.envelopeBlobUri), ("receivedAt", .str msg.receivedAt)] ++
    msg.source.toList.map fun source => ("source", .str source.text))

/-- The Service Bus context of a delivery. -/
structure AttemptContext where
  deliveryCount : ℕ
  sbMessageId : Option String := none
  sbSessionId : Option String := none
  startedAt : ℤ
  deriving DecidableEq, Repr

end DpIntegrator
