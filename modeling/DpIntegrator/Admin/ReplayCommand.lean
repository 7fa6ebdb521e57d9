import DpIntegrator.Admin.Arguments
import DpIntegrator.Delivery.ConnectionTable
import DpIntegrator.Effects.Simulation
import DpIntegrator.Postgres.XrefRefinement

/-!
# The replay command

`dpi replay` follows the rules of `requestReplay` with queries of its own on `entity_xref`. Run
by run it does what the replay of the core does, and the core nothing that it does not: the same
rows go, the same message is published, and what it prints is the outcome.
-/

namespace DpIntegrator

open Effects Sql

/-! ## What the command awaits -/

/-- A query, a message to the topic, or a reading of the clock. -/
inductive CliOp
  | sql (s : XrefStatement)
  | enqueue (sessionId : String) (body : OrderWebhookMessage)
  | clock

@[reducible] def CliOp.Resp : CliOp → Type
  | .sql _ => Except Thrown (List XrefRowDb)
  | .enqueue .. => Except Thrown Unit
  | .clock => ℤ

/-- The asynchronous functions of the command line. -/
abbrev Cli := Throwing Thrown CliOp CliOp.Resp

/-- The table and the topic. -/
structure CliWorld where
  table : XrefTable
  queue : Queue

/-- One answered operation. -/
inductive CliStep : (o : CliOp) → CliWorld → o.Resp → CliWorld → Prop
  | ran {s : XrefStatement} {v : CliWorld} {rows : List XrefRowDb} {t : XrefTable}
      (h : Sql.Step s v.table rows t) : CliStep (.sql s) v (.ok rows) { v with table := t }
  | notRun {s : XrefStatement} {v : CliWorld} (e : Thrown) : CliStep (.sql s) v (.error e) v
  | sent {sessionId : String} {body : OrderWebhookMessage} {v : CliWorld} (now : ℤ) :
      CliStep (.enqueue sessionId body) v (.ok ())
        { v with queue := v.queue.enqueue (some sessionId) body now }
  | notSent {sessionId : String} {body : OrderWebhookMessage} {v : CliWorld} (e : Thrown) :
      CliStep (.enqueue sessionId body) v (.error e) v
  | clock {v : CliWorld} (t : ℤ) : CliStep .clock v t v

namespace Cli

/-- `await pool.query(...)`. -/
def sql (key : DedupKeyParts) (action : Action ℤ XrefRowDb) : Cli (List XrefRowDb) :=
  ExceptT.mk (Prog.perform (CliOp.sql ⟨key, action⟩))

/-- `await queue.enqueue(...)`. -/
def enqueue (sessionId : String) (body : OrderWebhookMessage) : Cli Unit :=
  ExceptT.mk (Prog.perform (CliOp.enqueue sessionId body))

/-- `new Date()`. -/
def now : Cli ℤ := Throwing.observe CliOp.clock

end Cli

/-! ## The command -/

/-- What a command prints, and its exit code. -/
structure CommandResult where
  lines : List String
  exitCode : ℕ
  deriving DecidableEq, Repr

def replayHeading (req : ReplayRequest) : String :=
  "\nReplay " ++ req.orderGid ++ " on " ++ req.connectionId ++ " (" ++ req.environment.text ++ ")\n"

def refusedLine (targetId : Option String) : String :=
  "  refused: order is already synced (ns=" ++ targetId.getD "?" ++ "). " ++
    "Pass --force to re-replay (will delete the xref row and re-publish)."

def replayedLine (previousStatus : Option XrefStatus) (sessionId : String) : String :=
  "  replayed: previousStatus=" ++ previousStatusText previousStatus ++ " sessionId=" ++ sessionId

def sentLine (body : OrderWebhookMessage) : String :=
  "  topic: " ++ body.topic ++ "   envelopeBlobUri: " ++ body.envelopeBlobUri

def nextLine : String :=
  "\nNext: tail App Insights for `orderImportHandler` traces with that order GID.\n"

/-- Publish the order again, and say so. -/
def publishAgain (req : ReplayRequest) (connection : Connection)
    (previousStatus : Option XrefStatus) : Cli CommandResult := do
  let now ← Cli.now
  let sessionId := req.connectionId ++ ":" ++ req.orderGid
  let body := req.body connection now
  Cli.enqueue sessionId body
  return ⟨[replayHeading req, replayedLine previousStatus sessionId, sentLine body, nextLine], 0⟩

/-- The part of the command that runs with a pool and a producer. -/
def runReplay (req : ReplayRequest) (connection : Connection) : Cli CommandResult := do
  let existing ← Cli.sql req.parts .select
  match existing.head? with
  | none => publishAgain req connection none
  | some prior =>
    if prior.status = .synced ∧ req.force = false then
      return ⟨[replayHeading req, refusedLine prior.targetId], 2⟩
    else
      let _ ← Cli.sql req.parts .delete
      publishAgain req connection (some prior.status)

/-! ## The command follows the core -/

/-- The table and the topic of the command are the stores of the core. -/
structure SameStores (connections : List Connection) (v : CliWorld) (w : World) : Prop where
  rows : RowsAgree v.table w.xref
  queue : v.queue = w.queue
  connections : w.connections = connections

/-- What the command prints is the outcome. -/
inductive Prints (req : ReplayRequest) : CommandResult → ReplayOutcome → Prop
  | refused (targetId : Option String) :
      Prints req ⟨[replayHeading req, refusedLine targetId], 2⟩ (.refusedAlreadySynced targetId)
  | replayed (previousStatus : Option XrefStatus) (body : OrderWebhookMessage) :
      Prints req
        ⟨[replayHeading req, replayedLine previousStatus req.sessionId, sentLine body, nextLine], 0⟩
        (.replayed previousStatus req.sessionId)

/-- The core with a table of connections in memory, whose lookups cannot fail. -/
inductive CoreStep : (o : Op) → World → o.Resp → World → Prop
  | lookup {environment : Environment} {id : String} {w : World} :
      CoreStep (.io (.findConnection environment id)) w (.ok (w.findById environment id)) w
  | other {o : Op} {w w' : World} {r : o.Resp}
      (ho : ∀ environment id, o ≠ .io (.findConnection environment id)) (h : World.Step o w r w') :
      CoreStep o w r w'

theorem CoreStep.step {o : Op} {w w' : World} {r : o.Resp} (h : CoreStep o w r w') :
    World.Step o w r w' := by
  cases h with
  | lookup => exact @World.Step.served _ w w 0 _ rfl
  | other _ h => exact h

section Follows

variable {req : ReplayRequest} {key : String} {connections : List Connection}
  {connection : Connection} {v v' : CliWorld} {w w' : World}

/-- The row that a query returned is the row of the core, without its time. -/
def ReadsRow (rows : List XrefRowDb) (existing : Option XrefRow) : Prop :=
  rows.head?.map (fun row => (toXrefRow row).timeless) = existing.map XrefRow.timeless

theorem ReadsRow.cases {rows : List XrefRowDb} {existing : Option XrefRow}
    (h : ReadsRow rows existing) : (rows.head? = none ∧ existing = none) ∨
      ∃ prior row, rows.head? = some prior ∧ existing = some row ∧ prior.status = row.status ∧
        prior.targetId = row.targetId := by
  unfold ReadsRow at h
  cases hrows : rows.head? with
  | none =>
    rw [hrows] at h
    exact .inl ⟨rfl, by simpa using h.symm⟩
  | some prior =>
    rw [hrows] at h
    obtain ⟨row, hrow, heq⟩ := Option.map_eq_some_iff.mp h.symm
    exact .inr ⟨prior, row, rfl, hrow, congrArg XrefRow.status heq.symm,
      congrArg XrefRow.targetId heq.symm⟩

theorem sql_select_step {parts : DedupKeyParts} {r : Except Thrown (List XrefRowDb)}
    (h : CliStep (.sql ⟨parts, .select⟩) v r v') :
    v' = v ∧ ((∃ e, r = .error e) ∨ r = .ok (v.table parts).toList) := by
  cases h with
  | notRun e => exact ⟨rfl, .inl ⟨e, rfl⟩⟩
  | ran h =>
    obtain ⟨now, rfl, rfl⟩ := step_iff.mp h
    exact ⟨by simp [Action.run], .inr rfl⟩

theorem sql_delete_step {parts : DedupKeyParts} {r : Except Thrown (List XrefRowDb)}
    (h : CliStep (.sql ⟨parts, .delete⟩) v r v') :
    ((∃ e, r = .error e) ∧ v' = v) ∨ r = .ok (v.table parts).toList ∧
      v' = { v with table := Function.update v.table parts none } := by
  cases h with
  | notRun e => exact .inl ⟨⟨e, rfl⟩, rfl⟩
  | ran h =>
    obtain ⟨now, rfl, rfl⟩ := step_iff.mp h
    exact .inr ⟨rfl, rfl⟩

theorem lookup_step (hkey : dedupKey req.parts = .ok key) :
    CoreStep (.io (.lookupXref req.parts)) w (.ok (w.xref key)) w := by
  refine .other (by simp) (@World.Step.served _ w w 0 _ ?_)
  simp [World.serve, XrefRows.lookup, hkey, bind, Except.bind, pure, Except.pure]

theorem delete_step (hkey : dedupKey req.parts = .ok key) :
    CoreStep (.io (.deleteXref req.parts)) w (.ok (w.xref key))
      { w with xref := w.xref.drop key } := by
  refine .other (by simp) (@World.Step.served _ w _ 0 _ ?_)
  simp [World.serve, XrefRows.delete, hkey, bind, Except.bind, pure, Except.pure, World.storeXref]

/-! ### Call by call -/

theorem sameRow_of_agree (hkey : dedupKey req.parts = .ok key) (h : RowsAgree v.table w.xref) :
    ReadsRow (v.table req.parts).toList (w.xref key) := by
  have hsame := h.same req.parts key hkey
  unfold ReadsRow
  cases hrow : v.table req.parts with
  | none | some row =>
    rw [hrow] at hsame
    exact hsame

/-- The query finds what the lookup finds. -/
theorem select_followed (hkey : dedupKey req.parts = .ok key) :
    Followed CliStep CoreStep (SameStores connections) (SameEnd ReadsRow)
      (Prog.perform (CliOp.sql ⟨req.parts, .select⟩))
      (Prog.perform (Op.io (.lookupXref req.parts))) := by
  refine @Followed.perform _ _ _ _ _ _ _ _ _ (CliOp.sql ⟨req.parts, .select⟩)
    (Op.io (.lookupXref req.parts)) _ fun v w r v' hS hstep => ?_
  obtain ⟨rfl, ⟨e, rfl⟩ | rfl⟩ := sql_select_step hstep
  · exact ⟨.error e, w, .other (by simp) (.failed e), .error e, hS⟩
  · exact ⟨.ok (w.xref key), w, lookup_step hkey, .ok (sameRow_of_agree hkey hS.rows), hS⟩

theorem lookup_followed (hkey : dedupKey req.parts = .ok key) :
    Followed CoreStep CliStep (fun w v => SameStores connections v w)
      (SameEnd fun existing rows => ReadsRow rows existing)
      (Prog.perform (Op.io (.lookupXref req.parts)))
      (Prog.perform (CliOp.sql ⟨req.parts, .select⟩)) := by
  refine @Followed.perform _ _ _ _ _ _ _ _ _ (Op.io (.lookupXref req.parts))
    (CliOp.sql ⟨req.parts, .select⟩) _ fun w v r w' hS hstep => ?_
  cases r with
  | error e =>
    obtain rfl := World.Step.eq_of_error hstep.step
    exact ⟨.error e, v, .notRun e, .error e, hS⟩
  | ok existing =>
    obtain ⟨key', hkey', rfl, rfl⟩ := World.Step.lookupXref_ok hstep.step
    obtain rfl : key' = key := Except.ok.inj (hkey'.symm.trans hkey)
    refine ⟨.ok (v.table req.parts).toList, { v with table := v.table }, .ran ?_,
      .ok (sameRow_of_agree hkey hS.rows), hS⟩
    exact step_iff.mpr ⟨0, rfl, (Function.update_eq_self ..).symm⟩

/-- Both deletions leave the same rows. -/
theorem SameStores.drop (hkey : dedupKey req.parts = .ok key) (h : SameStores connections v w) :
    SameStores connections { v with table := Function.update v.table req.parts none }
      { w with xref := w.xref.drop key } :=
  ⟨h.rows.update hkey rfl, h.queue, h.connections⟩

theorem delete_followed (hkey : dedupKey req.parts = .ok key) :
    Followed CliStep CoreStep (SameStores connections) (SameEnd fun _ _ => True)
      (Prog.perform (CliOp.sql ⟨req.parts, .delete⟩))
      (Prog.perform (Op.io (.deleteXref req.parts))) := by
  refine @Followed.perform _ _ _ _ _ _ _ _ _ (CliOp.sql ⟨req.parts, .delete⟩)
    (Op.io (.deleteXref req.parts)) _ fun v w r v' hS hstep => ?_
  obtain ⟨⟨e, rfl⟩, rfl⟩ | ⟨rfl, rfl⟩ := sql_delete_step hstep
  · exact ⟨.error e, w, .other (by simp) (.failed e), .error e, hS⟩
  · exact ⟨_, _, delete_step hkey, .ok trivial, hS.drop hkey⟩

theorem drop_followed (hkey : dedupKey req.parts = .ok key) :
    Followed CoreStep CliStep (fun w v => SameStores connections v w) (SameEnd fun _ _ => True)
      (Prog.perform (Op.io (.deleteXref req.parts)))
      (Prog.perform (CliOp.sql ⟨req.parts, .delete⟩)) := by
  refine @Followed.perform _ _ _ _ _ _ _ _ _ (Op.io (.deleteXref req.parts))
    (CliOp.sql ⟨req.parts, .delete⟩) _ fun w v r w' hS hstep => ?_
  cases r with
  | error e =>
    obtain rfl := World.Step.eq_of_error hstep.step
    exact ⟨.error e, v, .notRun e, .error e, hS⟩
  | ok removed =>
    obtain ⟨key', hkey', _, rfl⟩ := World.Step.deleteXref_ok hstep.step
    obtain rfl : key' = key := Except.ok.inj (hkey'.symm.trans hkey)
    exact ⟨.ok (v.table req.parts).toList, _, .ran (step_iff.mpr ⟨0, rfl, rfl⟩), .ok trivial,
      hS.drop hkey⟩

theorem enqueue_followed {sessionId : String} {body : OrderWebhookMessage} :
    Followed CliStep CoreStep (SameStores connections) (SameEnd fun _ _ => True)
      (Prog.perform (CliOp.enqueue sessionId body))
      (Prog.perform (Op.io (.enqueue sessionId body))) := by
  refine @Followed.perform _ _ _ _ _ _ _ _ _ (CliOp.enqueue sessionId body)
    (Op.io (.enqueue sessionId body)) _ fun v w r v' hS hstep => ?_
  cases hstep with
  | notSent e => exact ⟨.error e, w, .other (by simp) (.failed e), .error e, hS⟩
  | sent now =>
    refine ⟨.ok (), { w with queue := w.queue.enqueue (some sessionId) body now },
      .other (by simp) (@World.Step.served _ w _ now _ rfl), .ok trivial, ?_⟩
    exact ⟨hS.rows, congrArg (Queue.enqueue · (some sessionId) body now) hS.queue, hS.connections⟩

theorem publish_followed {sessionId : String} {body : OrderWebhookMessage} :
    Followed CoreStep CliStep (fun w v => SameStores connections v w) (SameEnd fun _ _ => True)
      (Prog.perform (Op.io (.enqueue sessionId body)))
      (Prog.perform (CliOp.enqueue sessionId body)) := by
  refine @Followed.perform _ _ _ _ _ _ _ _ _ (Op.io (.enqueue sessionId body))
    (CliOp.enqueue sessionId body) _ fun w v r w' hS hstep => ?_
  cases r with
  | error e =>
    obtain rfl := World.Step.eq_of_error hstep.step
    exact ⟨.error e, v, .notSent e, .error e, hS⟩
  | ok u =>
    obtain ⟨now, rfl⟩ := World.Step.enqueue_ok hstep.step
    refine ⟨.ok (), _, .sent now, .ok trivial, ?_⟩
    exact ⟨hS.rows, congrArg (Queue.enqueue · (some sessionId) body now) hS.queue, hS.connections⟩

/-- The clock may show any time to either. -/
theorem now_followed : Follows CliStep CoreStep (SameStores connections) Eq Cli.now Async.now := by
  refine @Follows.observe _ _ _ _ _ _ _ _ _ _ CliOp.clock Op.clock _ fun v w now v' hS hstep => ?_
  cases hstep
  exact ⟨now, w, .other (by simp) (.clock now), rfl, hS⟩

theorem clock_followed : Follows CoreStep CliStep (fun w v => SameStores connections v w) Eq
    Async.now Cli.now := by
  refine @Follows.observe _ _ _ _ _ _ _ _ _ _ Op.clock CliOp.clock _ fun w v now w' hS hstep => ?_
  cases hstep.step
  exact ⟨now, v, .clock now, rfl, hS⟩

/-! ### The whole command -/

theorem publishAgain_follows {existing : Option XrefRow} :
    Follows CliStep CoreStep (SameStores connections) (Prints req)
      (publishAgain req connection (existing.map XrefRow.status))
      (republish req connection existing) := by
  refine now_followed.bind fun now now' hnow => ?_
  subst hnow
  refine Follows.bind (Q := fun _ _ => True) enqueue_followed fun _ _ _ => ?_
  exact .pure (.replayed _ _)

theorem republish_follows {existing : Option XrefRow} :
    Follows CoreStep CliStep (fun w v => SameStores connections v w) (fun o c => Prints req c o)
      (republish req connection existing)
      (publishAgain req connection (existing.map XrefRow.status)) := by
  refine clock_followed.bind fun now now' hnow => ?_
  subst hnow
  refine Follows.bind (Q := fun _ _ => True) publish_followed fun _ _ _ => ?_
  exact .pure (.replayed _ _)

/-- A connection that both look up. -/
def Finds (connections : List Connection) (req : ReplayRequest) (connection : Connection) : Prop :=
  ∀ w : World, w.connections = connections →
    w.findById req.environment req.connectionId = some connection

/-- Every run of the command is one of the core. -/
theorem runReplay_follows (hkey : dedupKey req.parts = .ok key)
    (hfinds : Finds connections req connection) :
    Follows CliStep CoreStep (SameStores connections) (Prints req) (runReplay req connection)
      (requestReplay req) := by
  refine Followed.perform_right (t := .ok (some connection)) (fun v w hS => ?_) ?_
  · have hstep : CoreStep (.io (.findConnection req.environment req.connectionId)) w
        (.ok (w.findById req.environment req.connectionId)) w := .lookup
    rwa [hfinds w hS.connections] at hstep
  refine Follows.bind (Q := ReadsRow) (select_followed hkey) fun rows existing hrow => ?_
  obtain ⟨hrows, rfl⟩ | ⟨prior, row, hrows, rfl, hstatus, htarget⟩ := hrow.cases
  · rw [hrows]
    exact @publishAgain_follows req connections connection none
  · rw [hrows]
    dsimp only
    rw [hstatus, htarget]
    split
    · exact .pure (.refused _)
    · refine Follows.bind (Q := fun _ _ => True) (delete_followed hkey) fun _ _ _ => ?_
      exact @publishAgain_follows req connections connection (some row)

/-- Every run of the core is one of the command. -/
theorem requestReplay_follows (hkey : dedupKey req.parts = .ok key)
    (hfinds : Finds connections req connection) :
    Follows CoreStep CliStep (fun w v => SameStores connections v w) (fun o c => Prints req c o)
      (requestReplay req) (runReplay req connection) := by
  refine Followed.perform_left (r := .ok (some connection)) (fun w v r w' hS hstep => ?_) ?_
  · cases hstep with
    | lookup => exact ⟨by rw [hfinds w hS.connections], rfl⟩
    | other ho => exact absurd rfl (ho _ _)
  refine Follows.bind (Q := fun existing rows => ReadsRow rows existing) (lookup_followed hkey)
    fun existing rows hrow => ?_
  obtain ⟨hrows, rfl⟩ | ⟨prior, row, hrows, rfl, hstatus, htarget⟩ := hrow.cases
  · rw [hrows]
    exact @republish_follows req connections connection none
  · rw [hrows]
    dsimp only
    rw [hstatus, htarget]
    split
    · exact .pure (.refused _)
    · refine Follows.bind (Q := fun _ _ => True) (drop_followed hkey) fun _ _ _ => ?_
      exact @republish_follows req connections connection (some row)

end Follows

/-! ## From the arguments on -/

/-- The process in which the command runs. -/
structure CliProcess where
  /-- `process.env`. -/
  env : String → Option String
  /-- `JSON.parse`, with the message of its error. -/
  parseJson : String → Except String Js.Value
  /-- The mappings that extra entries of a connection are. -/
  mappings : List Js.Value → List Mapping

namespace CliProcess

/-- A variable that has to be set. -/
def required (p : CliProcess) (message : String) (key : String) : Except Thrown String :=
  match (p.env key).filter (· ≠ "") with
  | none => .error (newError message)
  | some v => .ok v

def requiredForReplay (p : CliProcess) (key : String) : Except Thrown String :=
  p.required ("dpi replay: required env var '" ++ key ++ "' not set") key

def requiredForPool (p : CliProcess) (key : String) : Except Thrown String :=
  p.required ("dpi cli: required env var '" ++ key ++ "' not set. Export DPI_PG_HOST, " ++
    "DPI_PG_DATABASE, DPI_PG_USER (your Entra principal name).") key

/-- The environment that `DPI_ENVIRONMENT` names. -/
def environment (p : CliProcess) : Except Thrown Environment :=
  let env := (p.env "DPI_ENVIRONMENT").getD "dev"
  match Environment.ofText? env with
  | none => .error (newError ("DPI_ENVIRONMENT='" ++ env ++ "' invalid; expected dev|sandbox|prod"))
  | some environment => .ok environment

def connectionNotFound (env : Environment) (connectionId : String) : Thrown :=
  newError ("dpi replay: connection '" ++ connectionId ++ "' not found for environment '" ++
    env.text ++ "' in DPI_CONNECTIONS_JSON")

def resolveConnection (p : CliProcess) (json : String) (env : Environment) (connectionId : String) :
    Except Thrown ConnectionRecord := do
  let all ← parseConnectionsConfig p.parseJson json
  match all.find? fun c => c.environment = env && c.connectionId.val = connectionId with
  | none => .error (connectionNotFound env connectionId)
  | some c => .ok c

/-- What the command does before it has a pool: the request, and its connection. -/
def prepare (p : CliProcess) (argv : List String) : Except Thrown (ReplayRequest × Connection) := do
  let args ← parseArgs argv
  let env ← p.environment
  let connectionsJson ← p.requiredForReplay "DPI_CONNECTIONS_JSON"
  let _ ← p.requiredForReplay "DPI_SERVICE_BUS_NAMESPACE"
  let c ← p.resolveConnection connectionsJson env args.connectionId
  let _ ← p.requiredForPool "DPI_PG_HOST"
  let _ ← p.requiredForPool "DPI_PG_DATABASE"
  let _ ← p.requiredForPool "DPI_PG_USER"
  return (⟨env, args.connectionId, args.orderGid, args.topic, args.force⟩, c.connection p.mappings)

def replayCommand (p : CliProcess) (argv : List String) : Cli CommandResult :=
  match p.prepare argv with
  | .error e => throw e
  | .ok (req, connection) => runReplay req connection

end CliProcess

section Command

variable {p : CliProcess} {argv : List String} {req : ReplayRequest} {connection : Connection}
  {json : String} {repo : InMemoryConnectionsRepo}

/-- A prepared request names an order by its GID. -/
theorem prepare_eq_ok (h : p.prepare argv = .ok (req, connection))
    (hjson : p.env "DPI_CONNECTIONS_JSON" = some json) : req.connectionId ≠ "" ∧
      (∃ number, isDigits number = true ∧ req.orderGid = orderGidOfNumber number) ∧
      ∃ c, p.resolveConnection json req.environment req.connectionId = .ok c ∧
        connection = c.connection p.mappings := by
  obtain ⟨args, hargs, h⟩ := bind_eq_ok.mp h
  obtain ⟨env, _, h⟩ := bind_eq_ok.mp h
  obtain ⟨json', hjson', h⟩ := bind_eq_ok.mp h
  obtain ⟨_, _, h⟩ := bind_eq_ok.mp h
  obtain ⟨c, hc, h⟩ := bind_eq_ok.mp h
  obtain ⟨_, _, h⟩ := bind_eq_ok.mp h
  obtain ⟨_, _, h⟩ := bind_eq_ok.mp h
  obtain ⟨_, _, h⟩ := bind_eq_ok.mp h
  cases h
  have heq : json' = json := by
    unfold CliProcess.requiredForReplay CliProcess.required at hjson'
    rw [hjson] at hjson'
    split at hjson'
    · cases hjson'
    next v hv =>
      obtain ⟨hv, _⟩ := Option.filter_eq_some_iff.mp hv
      cases hjson'
      exact (Option.some.inj hv).symm
  subst heq
  obtain ⟨hgid, hid⟩ : (∃ s, orderGid? s = some args.orderGid) ∧ args.connectionId ≠ "" := by
    unfold parseArgs at hargs
    split at hargs
    · cases hargs
    next orderArg _ =>
      split at hargs
      · cases hargs
      next gid hgid =>
        split at hargs
        · cases hargs
        next id hid =>
          cases hargs
          exact ⟨⟨orderArg, hgid⟩, by simpa using (Option.filter_eq_some_iff.mp hid).2⟩
  obtain ⟨s, hs⟩ := hgid
  obtain ⟨number, hdigits, hnumber, _⟩ := orderGid?_eq_some.mp hs
  exact ⟨hid, ⟨number, hdigits, hnumber⟩, c, hc, rfl⟩

/-- Started from one configuration, the command and the core find the same connection. -/
theorem resolveConnection_iff (hboot : bootConnections p.parseJson p.mappings json = .ok repo)
    {w : World} (hw : w.connections = repo.all) (env : Environment) (id : String) :
    (∀ c, p.resolveConnection json env id = .ok c →
      w.findById env id = some (c.connection p.mappings)) ∧
    (p.resolveConnection json env id = .error (CliProcess.connectionNotFound env id) ↔
      w.findById env id = none) := by
  obtain ⟨rs, hparsed, hseed⟩ := bind_eq_ok.mp hboot
  obtain ⟨hall, _⟩ := hold_of_ofSeed hseed
  have hfind : w.findById env id =
      (rs.find? fun c => c.environment = env && c.connectionId.val = id).map
        (fun c => c.connection p.mappings) := by
    rw [World.findById, hw, hall, List.find?_map]
    rfl
  rw [hfind]
  cases hfound : rs.find? fun c => c.environment = env && c.connectionId.val = id with
  | none =>
    have herror : p.resolveConnection json env id =
        .error (CliProcess.connectionNotFound env id) := by
      refine bind_eq_error.mpr (.inr ⟨rs, hparsed, ?_⟩)
      rw [hfound]
    refine ⟨fun c hc => ?_, iff_of_true herror rfl⟩
    rw [herror] at hc
    cases hc
  | some c =>
    have hok : p.resolveConnection json env id = .ok c := by
      refine bind_eq_ok.mpr ⟨rs, hparsed, ?_⟩
      rw [hfound]
    refine ⟨fun c' hc' => ?_, iff_of_false ?_ (by simp)⟩
    · rw [hok] at hc'
      cases hc'
      rfl
    · rw [hok]
      rintro ⟨⟩

/-- A command that comes as far as its pool, for a connection whose id has no bar. -/
structure Replayable (p : CliProcess) where
  argv : List String
  req : ReplayRequest
  connection : Connection
  prepared : p.prepare argv = .ok (req, connection)
  noBar : Js.includes req.connectionId "|" = false

/-- The id of its order and that of its connection make a key. -/
theorem Replayable.exists_key (c : Replayable p)
    (hjson : p.env "DPI_CONNECTIONS_JSON" = some json) :
    ∃ key, dedupKey c.req.parts = .ok key := by
  obtain ⟨hid, ⟨number, hdigits, hgid⟩, _⟩ := prepare_eq_ok c.prepared hjson
  have hvalid : c.req.parts.Valid := by
    intro v hv
    have hnone {s : String} (h : '|' ∉ s.toList) : Js.includes s "|" = false :=
      Bool.eq_false_iff.mpr fun hbar => h (Js.occurs_singleton.mp hbar)
    simp only [DedupKeyParts.values, ReplayRequest.parts, List.mem_cons, List.not_mem_nil,
      or_false] at hv
    obtain rfl | rfl | rfl | rfl | rfl := hv
    · refine ⟨?_, hnone ?_⟩ <;> cases c.req.environment <;> decide
    · exact ⟨hid, c.noBar⟩
    · exact ⟨by decide, hnone (by decide)⟩
    · exact ⟨by decide, hnone (by decide)⟩
    · rw [hgid]
      refine ⟨orderGidOfNumber_ne_empty number, hnone ?_⟩
      rw [toList_orderGidOfNumber, List.mem_cons, List.mem_append]
      rintro (hchar | hchar | hchar)
      · cases hchar
      · exact absurd hchar (by decide)
      · obtain ⟨_, hall⟩ := Bool.and_eq_true_iff.mp hdigits
        exact absurd (List.all_eq_true.mp hall _ hchar) (by decide)
  exact ⟨_, dedupKeyWith_eq_ok.mpr ⟨hvalid, rfl⟩⟩

theorem Replayable.finds (c : Replayable p) (hjson : p.env "DPI_CONNECTIONS_JSON" = some json)
    (hboot : bootConnections p.parseJson p.mappings json = .ok repo) :
    Finds repo.all c.req c.connection := by
  obtain ⟨_, _, record, hrecord, hconnection⟩ := prepare_eq_ok c.prepared hjson
  intro w hw
  rw [hconnection]
  exact (resolveConnection_iff hboot hw _ _).1 record hrecord

/-- The command runs, and takes the table and the topic from `v` to `v'`. -/
def Replayable.RunsAs (c : Replayable p) (v : CliWorld) (res : Except Thrown CommandResult)
    (v' : CliWorld) : Prop := ∃ tr, Exec CliStep (p.replayCommand c.argv).run v tr res v'

/-- The core replays the request of the command instead. -/
def Replayable.ReplaysAs (c : Replayable p) (w : World) (out : Except Thrown ReplayOutcome)
    (w' : World) : Prop := ∃ tr, Exec CoreStep (requestReplay c.req).run w tr out w'

/-- The command and the core end with the same error, or with an outcome that is printed. -/
def SameReplay (ev : Event (Replayable p) fun _ => Except Thrown CommandResult)
    (ev' : Event (Replayable p) fun _ => Except Thrown ReplayOutcome) : Prop :=
  ev.1 = ev'.1 ∧ SameEnd (Prints ev.1.req) ev.2 ev'.2

theorem Replayable.replayCommand_eq (c : Replayable p) :
    p.replayCommand c.argv = runReplay c.req c.connection := by
  unfold CliProcess.replayCommand
  rw [c.prepared]

/-- A process in which every variable is set. -/
def shopProcess : CliProcess where
  env := fun key => some (if key = "DPI_ENVIRONMENT" then "dev" else "json")
  parseJson := fun _ => .ok (.arr [devStore.toJs])
  mappings := fun _ => []

theorem shopProcess_boots : ∃ repo,
    bootConnections shopProcess.parseJson shopProcess.mappings "json" = .ok repo := by
  obtain ⟨repo, hseed⟩ := (@ofSeed_eq_ok ([devStore].map fun r => r.connection fun _ => [])).mpr
    (List.pairwise_singleton ..)
  refine ⟨repo, bind_eq_ok.mpr ⟨[devStore], ?_, hseed⟩⟩
  exact parseConnectionsConfig_eq_ok.mpr ⟨_, rfl, .cons (describes_toJs _) .nil⟩

/-- The request of `dpi replay 123 --connection conn-a`. -/
def shopRequest : ReplayRequest := ⟨.dev, "conn-a", "gid://shopify/Order/123", none, false⟩

theorem shopProcess_prepares : shopProcess.prepare ["123", "--connection", "conn-a"] =
    .ok (shopRequest, devStore.connection fun _ => []) := rfl

def shopCommand : Replayable shopProcess where
  argv := ["123", "--connection", "conn-a"]
  req := shopRequest
  connection := devStore.connection fun _ => []
  prepared := shopProcess_prepares
  noBar := by decide

/-- A database and a topic that are up. -/
def cliUp (o : CliOp) (v : CliWorld) : o.Resp × CliWorld :=
  match o with
  | .sql s => (.ok (s.run 0 v.table).1, { v with table := (s.run 0 v.table).2 })
  | .enqueue sessionId body => (.ok (), { v with queue := v.queue.enqueue (some sessionId) body 0 })
  | .clock => ((0 : ℤ), v)

theorem step_cliUp (o : CliOp) (v : CliWorld) : CliStep o v (cliUp o v).1 (cliUp o v).2 := by
  cases o with
  | sql s => exact .ran ⟨0, rfl⟩
  | enqueue => exact .sent 0
  | clock => exact .clock 0

/-- The command on an empty table. -/
def shopRun : List (Event CliOp CliOp.Resp) × Except Thrown CommandResult × CliWorld :=
  (shopProcess.replayCommand shopCommand.argv).run.execute cliUp ⟨fun _ => none, ⟨[], 0⟩⟩

theorem shopRun_runs : shopCommand.RunsAs ⟨fun _ => none, ⟨[], 0⟩⟩ shopRun.2.1 shopRun.2.2 :=
  ⟨shopRun.1, Prog.exec_execute step_cliUp _ _⟩

end Command

end DpIntegrator
