import DpIntegrator.Calls

/-!
# The field-map evaluator

Walks a list of mappings, reads values from a source by path and writes them onto a
fresh object. A mapping that needs a value the connection has no row for parks; a
mapping that names an unknown derivation, or is no mapping at all, throws.
-/

namespace DpIntegrator

open Effects

/-- Why the mapping engine parked. -/
structure ParkReason where
  detail : String
  construct : Option String := none
  evidence : Option Js.Fields := none

/-- A payload, or a reason to park. -/
inductive MappingResult (α : Type)
  | ok (payload : α)
  | parked (reason : ParkReason)

/-- Resolve a key in a lookup table. -/
abbrev LookupResolver := String → String → Async (Option String)

/-- A named derivation from the source; the registered ones await nothing. -/
abbrev DeriveFn (S : Type) := Js.Fields → S → Except Thrown Js.Value

abbrev DeriveRegistry (S : Type) := String → Option (DeriveFn S)

structure EvaluatorContext (S : Type) where
  lookups : LookupResolver
  derives : DeriveRegistry S

/-! ## Paths -/

/-- Read a value by path; a missing step gives `undefined`. -/
def getPath (source : Js.Value) (path : String) : Js.Value :=
  if path = "" then source
  else (Js.split path '.').foldl
    (fun cur part => if cur.isObject then cur.prop part else .undefined) source

/-- Write below `cur` along the parts of a path. -/
def setParts : Js.Value → List String → Js.Value → Js.Value
  | _, [], value => value
  | cur, [part], value => cur.setProp part value
  | cur, part :: rest, value =>
    let next := if (cur.prop part).isObject then cur.prop part else .obj []
    cur.setProp part (setParts next rest value)

/-- Write a value at a path of the output object, creating objects on the way. -/
def setPath (out : Js.Fields) (path : String) (value : Js.Value) : Except Thrown Js.Fields :=
  if path = "" then .error (newError "setPath: path must be non-empty")
  else match setParts (.obj out) (Js.split path '.') value with
    | .obj fields => .ok fields
    | _ => .ok out

/-- `a === b`, where `b` is configuration: objects are never the same object. -/
def strictEqual : Js.Value → Js.Value → Bool
  | .undefined, .undefined => true
  | .null, .null => true
  | .bool a, .bool b => a == b
  | .num a, .num b => a == b && !a.isNaN
  | .str a, .str b => a == b
  | _, _ => false

/-! ## Mappings -/

section

variable {S : Type} [ToJs S]

def applyDirect (source : S) (path target : String) (out : Js.Fields) :
    Except Thrown (MappingResult Js.Fields) := do
  return .ok (← setPath out target (getPath (toJs source) path))

def applyConstant (value : Js.Value) (target : String) (out : Js.Fields) :
    Except Thrown (MappingResult Js.Fields) := do
  return .ok (← setPath out target value)

def applyLookup (source : S) (table fromKey target : String) (required : Bool)
    (ctx : EvaluatorContext S) (out : Js.Fields) : Async (MappingResult Js.Fields) := do
  let key := getPath (toJs source) fromKey
  if key.isNullish then
    if required then
      return .parked
        { detail := "lookup '" ++ table ++ "': source key '" ++ fromKey ++ "' missing"
          construct := some fromKey }
    else return .ok (← Async.ofExcept (setPath out target .null))
  else
    match ← ctx.lookups table key.toText with
    | none =>
      if required then
        return .parked
          { detail := "lookup '" ++ table ++ "' has no row for key '" ++ key.toText ++ "'"
            construct := some table
            evidence := some [(fromKey, key)] }
      else return .ok (← Async.ofExcept (setPath out target .null))
    | some resolved => return .ok (← Async.ofExcept (setPath out target (.str resolved)))

def applyDerive (source : S) (fn : String) (args : Js.Fields) (target : String)
    (ctx : EvaluatorContext S) (out : Js.Fields) : Except Thrown (MappingResult Js.Fields) := do
  match ctx.derives fn with
  | none =>
    throw (newError ("mapping evaluator: derive fn '" ++ fn ++
      "' is not registered (referenced by mapping → '" ++ target ++ "')"))
  | some derive =>
    let value ← derive args source
    return .ok (← setPath out target value)

def applyMapping (source : S) (ctx : EvaluatorContext S) :
    Mapping → Js.Fields → Async (MappingResult Js.Fields)
  | .direct path target, out => Async.ofExcept (applyDirect source path target out)
  | .constant value target, out => Async.ofExcept (applyConstant value target out)
  | .lookup table fromKey target required, out =>
    applyLookup source table fromKey target required ctx out
  | .derive fn args target, out => Async.ofExcept (applyDerive source fn args target ctx out)
  | .conditional path equals then_ none, out =>
    if strictEqual (getPath (toJs source) path) equals then applyMapping source ctx then_ out
    else return .ok out
  | .conditional path equals then_ (some else_), out =>
    if strictEqual (getPath (toJs source) path) equals then applyMapping source ctx then_ out
    else applyMapping source ctx else_ out
  | .malformed message, _ => throw (typeError message)

/-- Apply the mappings in order to `out`; the first that parks ends the evaluation. -/
def evaluateFrom (source : S) (ctx : EvaluatorContext S) :
    List Mapping → Js.Fields → Async (MappingResult Js.Fields)
  | [], out => return .ok out
  | m :: rest, out => do
    match ← applyMapping source ctx m out with
    | .ok out => evaluateFrom source ctx rest out
    | .parked reason => return .parked reason

/-- Evaluate a list of mappings onto a fresh object. -/
def evaluate (source : S) (mappings : List Mapping) (ctx : EvaluatorContext S) :
    Async (MappingResult Js.Fields) :=
  evaluateFrom source ctx mappings []

end

end DpIntegrator
