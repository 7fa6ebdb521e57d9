import DpIntegrator.NetSuite.Balancing

/-!
# Item references

Replaces the human-readable item ids on the lines of a payload by the internal ids
that NetSuite answers.
-/

namespace DpIntegrator

open Effects

/-- `{ ...line, item: { id } }`. -/
def withItemId (line : Js.Value) (id : String) : Js.Value :=
  .obj (((line.entries?).getD []).set "item" (.obj [("id", .str id)]))

/-- What a line asks for. -/
inductive ItemReference
  | none
  | resolved (id : String)
  | sku (id : String)

/-- The reference on a line: none, one that is marked as an internal id, or one to look up. -/
def itemReference (line : Js.Value) : ItemReference :=
  let itemRef := line.prop "item"
  if !itemRef.isObject || (itemRef.prop "id").isNullish then .none
  else match itemRef.prop "__resolved" with
    | .bool true => .resolved (itemRef.prop "id").toText
    | _ => .sku (itemRef.prop "id").toText

/-- Resolve the line at the index `idx` of a sublist. -/
def resolveLine (nsAccountId sublistName : String) (fallback : Option String) (idx : ℕ)
    (line : Js.Value) : Async (MappingResult Js.Value) :=
  if line.isNullish then throw (typeError "Cannot read properties of null (reading 'item')")
  else match itemReference line with
    | .none => return .ok line
    | .resolved id => return .ok (withItemId line id)
    | .sku sku => do
      match ← Async.io (.resolveItemId nsAccountId sku) with
      | some internalId => return .ok (withItemId line internalId)
      | none =>
        match fallback with
        | some id => return .ok (withItemId line id)
        | none =>
          return .parked
            { detail := sublistName ++ "[" ++ toString idx ++
                "]: no NS item matches sku/title '" ++ sku ++
                "' — create the item in NS or correct the source"
              construct := some (sublistName ++ ":" ++ sku) }

/-- Resolve the lines from the index `idx` on; the first that parks ends it. -/
def resolveLines (nsAccountId sublistName : String) (fallback : Option String) :
    ℕ → List Js.Value → Async (MappingResult (List Js.Value))
  | _, [] => return .ok []
  | idx, line :: rest => do
    match ← resolveLine nsAccountId sublistName fallback idx line with
    | .parked reason => return .parked reason
    | .ok line =>
      match ← resolveLines nsAccountId sublistName fallback (idx + 1) rest with
      | .parked reason => return .parked reason
      | .ok lines => return .ok (line :: lines)

/-- Resolve both sublists of a payload. Only item lines fall back. -/
def resolveItemReferences (payload : NsOrderPayload) (nsAccountId : String)
    (fallbackItemInternalId : Option String) : Async (MappingResult NsOrderPayload) := do
  let lines ← Async.ofExcept (itemLines payload)
  match ← resolveLines nsAccountId "item" fallbackItemInternalId 0 lines with
  | .parked reason => return .parked reason
  | .ok items =>
    let out := payload.set "item" (.obj [("items", .arr items)])
    let bag := (payload.get? "shipping").getD .undefined
    if bag.truthy then
      let lines ← Async.ofExcept (linesOf bag)
      match ← resolveLines nsAccountId "shipping" none 0 lines with
      | .parked reason => return .parked reason
      | .ok shipping => return .ok (out.set "shipping" (.obj [("items", .arr shipping)]))
    else return .ok out

end DpIntegrator
