import DpIntegrator.Governor.HolderId
import DpIntegrator.Governor.Store
import DpIntegrator.Js.Value

/-!
# Governed requests

`governorMiddleware` with the `acquireSlot` it awaits, cut at its awaits. Between two awaits
a request runs without interruption: that is one turn. A turn sees and changes the store and
the sequence number of holder ids, which all requests of a process share; clock readings
and what the wrapped request settles with come from outside.
-/

namespace DpIntegrator

open Js (Number)

/-- What `acquireSlot` reads of its configuration. -/
structure GovernorConfig where
  pollIntervalMs : Option Number := none
  acquireTimeoutMs : Option Number := none

/-- What `governorMiddleware` closes over besides the store. -/
structure GovernorArgs where
  nsAccountId : String
  config : GovernorConfig := {}

/-- The arguments and locals of a call of `acquireSlot`. -/
structure Acquire where
  nsAccountId : String
  holderId : String
  pollInterval : Number
  timeout : Number
  deadline : Number

/-- The locals of `acquireSlot`, called at the time `now`. -/
def Acquire.locals (nsAccountId holderId : String) (config : GovernorConfig) (now : ℤ) : Acquire where
  nsAccountId := nsAccountId
  holderId := holderId
  pollInterval := config.pollIntervalMs.getD 25
  timeout := config.acquireTimeoutMs.getD 60000
  deadline := .fin now + config.acquireTimeoutMs.getD 60000

/-- The message with which `acquireSlot` gives up. -/
def Acquire.timeoutMessage (locals : Acquire) : String :=
  "Governor: timed out after " ++ locals.timeout.toText ++ "ms waiting for slot on NS account '" ++
    locals.nsAccountId ++ "'"

/-- The callback that `acquireSlot` returns, with what it closes over. -/
structure Release where
  nsAccountId : String
  holderId : String
  released : Bool := false

/-- What all requests of a process share. -/
structure Shared (ceiling : ℕ) where
  store : SharedInMemoryGovernorStore ceiling
  holderSeq : ℕ := 0

variable {ceiling : ℕ}

/-- Call `release()`. -/
def Release.call (release : Release) (shared : Shared ceiling) : Release × Shared ceiling :=
  if release.released then (release, shared)
  else
    ({ release with released := true },
      { shared with store := shared.store.release release.nsAccountId release.holderId })

/-- What the middleware writes on the request before it leaves. -/
structure GovernorMetadata where
  nsAccountId : String
  governorHolderId : String

/-- A governed request, at one of the awaits of its middleware. `ρ` is what the wrapped
request settles with, a response or an error. -/
inductive Request (ρ : Type)
  /-- Not made yet. -/
  | idle
  /-- At `await store.tryAcquire(…)`, which was answered `got`. -/
  | acquiring (locals : Acquire) (got : Bool)
  /-- At `await new Promise((r) => setTimeout(r, pollInterval))`. -/
  | sleeping (locals : Acquire)
  /-- At `await acquireSlot(…)`, which returned `release`. -/
  | acquired (release : Release)
  /-- At `await next()`. -/
  | executing (release : Release) (metadata : GovernorMetadata)
  /-- At `await release()`. -/
  | releasing (release : Release) (result : ρ)
  /-- Settled as the wrapped request did. -/
  | settled (release : Release) (result : ρ)
  /-- Rejected with the error of `acquireSlot`. -/
  | timedOut (locals : Acquire) (message : String)

/-- What lets a request run on. -/
inductive Turn (ρ : Type)
  /-- The request is made; the clock is read for its id and for its deadline. -/
  | made (now now' : ℤ)
  /-- The answer of `tryAcquire` arrives. -/
  | answered (now : ℤ)
  /-- The timer fires. -/
  | woken
  /-- `acquireSlot` has returned. -/
  | admitted
  /-- The wrapped request settles. -/
  | returned (result : ρ)
  /-- The first call of `release` has returned. -/
  | freed
  /-- `release` is called once more. -/
  | releasedAgain

variable {ρ ι : Type}

/-- The start of an iteration of the loop of `acquireSlot`. -/
def Acquire.attempt (locals : Acquire) (shared : Shared ceiling) : Request ρ × Shared ceiling :=
  let (got, store) := shared.store.tryAcquire locals.nsAccountId locals.holderId
  (.acquiring locals got, { shared with store })

/-- The rest of an iteration of the loop of `acquireSlot`, at the time `now`. -/
def Acquire.resume (locals : Acquire) (got : Bool) (now : ℤ) : Request ρ :=
  if got then .acquired { nsAccountId := locals.nsAccountId, holderId := locals.holderId }
  else if (Number.fin now).ge locals.deadline then .timedOut locals locals.timeoutMessage
  else .sleeping locals

/-- `governorMiddleware`: how a request runs on, if it can at that turn. -/
def governorMiddleware (args : GovernorArgs) :
    Turn ρ → Request ρ → Shared ceiling → Option (Request ρ × Shared ceiling)
  | .made now now', .idle, shared =>
    let (holderId, holderSeq) := newHolderId "ns" now shared.holderSeq
    some ((Acquire.locals args.nsAccountId holderId args.config now').attempt
      { shared with holderSeq })
  | .answered now, .acquiring locals got, shared => some (locals.resume got now, shared)
  | .woken, .sleeping locals, shared => some (locals.attempt shared)
  | .admitted, .acquired release, shared =>
    some (.executing release
      { nsAccountId := args.nsAccountId, governorHolderId := release.holderId }, shared)
  | .returned result, .executing release _, shared =>
    let (release, shared) := release.call shared
    some (.releasing release result, shared)
  | .freed, .releasing release result, shared => some (.settled release result, shared)
  | .releasedAgain, .releasing release result, shared =>
    let (release, shared) := release.call shared
    some (.releasing release result, shared)
  | .releasedAgain, .settled release result, shared =>
    let (release, shared) := release.call shared
    some (.settled release result, shared)
  | _, _, _ => none

/-- A process: its governed requests and what they share. -/
structure Process (ι ρ : Type) (ceiling : ℕ) where
  shared : Shared ceiling
  requests : ι → Request ρ

namespace Process

/-- A process that has made no request. -/
def start (store : SharedInMemoryGovernorStore ceiling) (holderSeq : ℕ) : Process ι ρ ceiling where
  shared := { store, holderSeq }
  requests _ := .idle

variable [DecidableEq ι]

/-- One turn of request `i`. -/
def step (args : ι → GovernorArgs) (i : ι) (turn : Turn ρ) (p : Process ι ρ ceiling) :
    Option (Process ι ρ ceiling) :=
  (governorMiddleware (args i) turn (p.requests i) p.shared).map fun (request, shared) =>
    { shared, requests := Function.update p.requests i request }

/-- Any number of turns, of any requests in any order. -/
def run (args : ι → GovernorArgs) : List (ι × Turn ρ) → Process ι ρ ceiling →
    Option (Process ι ρ ceiling)
  | [], p => some p
  | (i, turn) :: turns, p => (p.step args i turn).bind (run args turns)

/-- `inFlight` of the store. -/
def inFlight (p : Process ι ρ ceiling) (nsAccountId : String) : ℕ :=
  p.shared.store.inFlight nsAccountId

end Process

end DpIntegrator
