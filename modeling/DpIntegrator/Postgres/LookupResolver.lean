import DpIntegrator.Core.Keys
import DpIntegrator.Delivery.CallsMade
import DpIntegrator.Delivery.Responses
import DpIntegrator.Effects.Handlers
import DpIntegrator.Effects.Executions
import DpIntegrator.World

/-!
# The lookup resolver

Lookups of the mapping are answered from the lookup tables of Postgres, by a resolver that is bound
to a connection and keeps every answer. However the tables change meanwhile, a delivery runs as if
its lookups were answered from tables that do not change: it reads no entry twice, and reads the
entries of its own connection only.
-/

namespace DpIntegrator

open Effects

/-! ## The resolver -/

structure TableMeta where
  sourceKeyColumn : String
  valueColumn : String
  deriving DecidableEq

/-- `TABLES`. -/
def lookupTables : List (String × TableMeta) :=
  [("lookup_payment_method", ⟨"shopify_gateway", "ns_account_id"⟩),
    ("lookup_ship_method", ⟨"shopify_shipping_title", "ns_ship_item_id"⟩),
    ("lookup_tax", ⟨"shopify_tax_title", "ns_tax_code_id"⟩),
    ("lookup_location", ⟨"shopify_location_id", "ns_location_id"⟩),
    ("lookup_currency", ⟨"currency_code", "ns_currency_id"⟩)]

/-- The members that every object inherits. None of them has the columns, and what is undefined is
quoted as its text. -/
def objectMembers : List String :=
  ["constructor", "__defineGetter__", "__defineSetter__", "hasOwnProperty", "__lookupGetter__",
    "__lookupSetter__", "isPrototypeOf", "propertyIsEnumerable", "toString", "valueOf", "__proto__",
    "toLocaleString"]

/-- `TABLES[table]`. -/
def tableMeta (table : String) : Option TableMeta :=
  ((lookupTables.find? fun entry => entry.1 = table).map Prod.snd).or
    (if table ∈ objectMembers then some ⟨"undefined", "undefined"⟩ else none)

def unknownTable (table : String) : Thrown :=
  newError ("PostgresLookupResolver: unknown lookup table '" ++ table ++ "'")

/-- `/^[a-z_][a-z0-9_]*$/i`. -/
def isIdentifier (s : String) : Bool :=
  match s.toList with
  | [] => false
  | c :: cs => (c.isAlpha || c == '_') && cs.all fun c => c.isAlphanum || c == '_'

def quoteIdent (s : String) : Except Thrown String :=
  if isIdentifier s then .ok ("\"" ++ s ++ "\"")
  else .error (newError ("PostgresLookupResolver: refusing to quote suspicious identifier '" ++ s ++
    "'"))

/-- A query for one entry: `SELECT value AS v FROM table WHERE environment = $1 AND
connection_id = $2 AND source = $3 LIMIT 1`. -/
structure LookupSql where
  value : String
  table : String
  source : String
  environment : Environment
  connectionId : String
  key : String
  deriving DecidableEq

/-- The connection to which a resolver is bound. -/
abbrev Binding := Environment × String

def Connection.binding (connection : Connection) : Binding :=
  (connection.environment, connection.connectionId)

/-- What a resolver does: it reads its cache and writes it, and queries the database. -/
inductive ResolverOp
  | other (o : Op)
  | cached (binding : Binding) (cacheKey : String)
  | select (sql : LookupSql)
  | keep (binding : Binding) (cacheKey : String) (value : Option String)

@[reducible] def ResolverOp.Resp : ResolverOp → Type
  | .other o => o.Resp
  | .cached .. => Option (Option String)
  | .select _ => Except Thrown (Option String)
  | .keep .. => Unit

abbrev Resolver := Throwing Thrown ResolverOp ResolverOp.Resp

/-- The query for an entry of a table. -/
def lookupSql (connection : Connection) (table : String) (columns : TableMeta) (key : String) :
    Except Thrown LookupSql := do
  let value ← quoteIdent columns.valueColumn
  let quotedTable ← quoteIdent table
  let source ← quoteIdent columns.sourceKeyColumn
  return ⟨value, quotedTable, source, connection.environment, connection.connectionId, key⟩

/-- The entry of a row that was found; it is kept, if answers are kept. -/
def queryLookup (cacheEnabled : Bool) (connection : Connection) (cacheKey : String)
    (sql : LookupSql) : Resolver (Option String) := do
  let value ← (ExceptT.mk (Prog.perform (ResolverOp.select sql)) : Resolver (Option String))
  if cacheEnabled then Throwing.observe (ResolverOp.keep connection.binding cacheKey value)
  return value

/-- The rest of `resolve`, where no answer was kept. -/
def queryTable (cacheEnabled : Bool) (connection : Connection) (table : String)
    (columns : TableMeta) (key : String) : Resolver (Option String) :=
  match lookupSql connection table columns key with
  | .error e => throw e
  | .ok sql => queryLookup cacheEnabled connection (table ++ "|" ++ key) sql

/-- `resolve`. -/
def resolveLookup (cacheEnabled : Bool) (connection : Connection) (table key : String) :
    Resolver (Option String) :=
  match tableMeta table with
  | none => throw (unknownTable table)
  | some columns => do
    let found ← if cacheEnabled then
        Throwing.observe (ResolverOp.cached connection.binding (table ++ "|" ++ key))
      else pure none
    match found with
    | some value => return value
    | none => queryTable cacheEnabled connection table columns key

/-- Every lookup goes to the resolver of its connection. -/
def withResolver (cacheEnabled : Bool) : (o : Op) → Prog ResolverOp ResolverOp.Resp o.Resp
  | .io (.resolveLookup connection table key) =>
    (resolveLookup cacheEnabled connection table key).run
  | o => Prog.perform (ResolverOp.other o)

/-! ## The database -/

/-- The caches of the resolvers, and everything else. -/
structure ResolverState where
  caches : Binding → String → Option (Option String)
  world : World

/-- The state after an answer was kept. -/
def ResolverState.keep (st : ResolverState) (binding : Binding) (cacheKey : String)
    (value : Option String) : ResolverState :=
  { st with
    caches := Function.update st.caches binding
      (Function.update (st.caches binding) cacheKey (some value)) }

/-- An operation on a state. A query is answered by what the tables hold at the time, which is
anything, or fails. -/
inductive ResolverStep : (o : ResolverOp) → ResolverState → o.Resp → ResolverState → Prop
  | other {o : Op} {st : ResolverState} {r : o.Resp} {w' : World} (h : World.Step o st.world r w') :
      ResolverStep (.other o) st r { st with world := w' }
  | cached {binding : Binding} {cacheKey : String} {st : ResolverState} :
      ResolverStep (.cached binding cacheKey) st (st.caches binding cacheKey) st
  | select {sql : LookupSql} {st : ResolverState} (r : Except Thrown (Option String)) :
      ResolverStep (.select sql) st r st
  | keep {binding : Binding} {cacheKey : String} {value : Option String} {st : ResolverState} :
      ResolverStep (.keep binding cacheKey value) st () (st.keep binding cacheKey value)

/-! ## One lookup -/

abbrev ResolverEv := Event ResolverOp ResolverOp.Resp

/-- The query of an event. -/
def queried : ResolverEv → Option LookupSql
  | ⟨.select sql, _⟩ => some sql
  | _ => none

/-- The query of an event, if it was answered. -/
def queriedOk : ResolverEv → Option LookupSql
  | ⟨.select sql, .ok _⟩ => some sql
  | _ => none

/-- How a lookup ends: the operations of the resolver, what it returns, and the state it leaves. -/
inductive Resolved (connection : Connection) (table key : String) (st : ResolverState) :
    List ResolverEv → Except Thrown (Option String) → ResolverState → Prop
  | unknown (h : tableMeta table = none) :
      Resolved connection table key st [] (.error (unknownTable table)) st
  | failed {t : List ResolverEv} (h : tableMeta table ≠ none) (e : Thrown)
      (hquiet : t.filterMap queriedOk = [])
      (hown : ∀ sql ∈ t.filterMap queried,
        (sql.environment, sql.connectionId) = connection.binding) :
      Resolved connection table key st t (.error e) st
  | kept {t : List ResolverEv} {value : Option String} (h : tableMeta table ≠ none)
      (hquiet : t.filterMap queried = []) (hquiet' : t.filterMap queriedOk = [])
      (hkept : st.caches connection.binding (table ++ "|" ++ key) = some value) :
      Resolved connection table key st t (.ok value) st
  | found {t : List ResolverEv} {columns : TableMeta} {sql : LookupSql} {value : Option String}
      (htable : tableMeta table = some columns)
      (hsql : lookupSql connection table columns key = .ok sql)
      (hmiss : st.caches connection.binding (table ++ "|" ++ key) = none)
      (hown : t.filterMap queried = [sql]) (hown' : t.filterMap queriedOk = [sql])
      (hread : ⟨.select sql, .ok value⟩ ∈ t) :
      Resolved connection table key st t (.ok value)
        (st.keep connection.binding (table ++ "|" ++ key) value)

section Lookup

variable {connection : Connection} {table key : String} {st st' : ResolverState}
  {t : List ResolverEv} {res : Except Thrown (Option String)} {sql : LookupSql}

theorem lookupSql_eq_ok {columns : TableMeta}
    (h : lookupSql connection table columns key = .ok sql) :
    sql = ⟨"\"" ++ columns.valueColumn ++ "\"", "\"" ++ table ++ "\"",
      "\"" ++ columns.sourceKeyColumn ++ "\"", connection.environment, connection.connectionId,
      key⟩ := by
  unfold lookupSql quoteIdent at h
  by_cases hvalue : isIdentifier columns.valueColumn = true
  · by_cases htable : isIdentifier table = true
    · by_cases hsource : isIdentifier columns.sourceKeyColumn = true
      · rw [if_pos hvalue, if_pos htable, if_pos hsource] at h
        exact (Except.ok.inj h).symm
      · rw [if_pos hvalue, if_pos htable, if_neg hsource] at h
        cases h
    · rw [if_pos hvalue, if_neg htable] at h
      cases h
  · rw [if_neg hvalue] at h
    cases h

theorem lookupSql_binding {columns : TableMeta}
    (h : lookupSql connection table columns key = .ok sql) :
    (sql.environment, sql.connectionId) = connection.binding := by
  rw [lookupSql_eq_ok h]
  rfl

/-- A query determines the connection, the table and the key. -/
theorem lookupSql_inj {connection' : Connection} {table' key' : String}
    {columns columns' : TableMeta}
    (h : lookupSql connection table columns key = .ok sql)
    (h' : lookupSql connection' table' columns' key' = .ok sql) :
    connection.binding = connection'.binding ∧ table = table' ∧ key = key' := by
  have heq := (lookupSql_eq_ok h).symm.trans (lookupSql_eq_ok h')
  obtain ⟨_, htable, _, henv, hid, hkey⟩ := LookupSql.mk.inj heq
  have hchars := congrArg String.toList htable
  simp only [String.toList_append] at hchars
  have hsame := List.append_cancel_left (List.append_cancel_right hchars)
  exact ⟨Prod.ext henv hid, String.toList_inj.mp hsame, hkey⟩

theorem settles_queryLookup {cacheKey : String}
    (h : Settles (queryLookup true connection cacheKey sql) t res) :
    (∃ e, res = .error e ∧ t = [⟨.select sql, .error e⟩]) ∨
      ∃ value, res = .ok value ∧
        t = [⟨.select sql, .ok value⟩, ⟨.keep connection.binding cacheKey value, ()⟩] := by
  unfold queryLookup at h
  have hselect {tr : List ResolverEv} {r : Except Thrown (Option String)}
      (h : Settles (ExceptT.mk (Prog.perform (ResolverOp.select sql)) : Resolver (Option String))
        tr r) :
      tr = [⟨.select sql, r⟩] := runs_perform.mp h
  obtain ⟨e, rfl, hfirst⟩ | ⟨value, t₁, t₂, rfl, hfirst, hrest⟩ := settles_bind.mp h
  · exact .inl ⟨e, rfl, hselect hfirst⟩
  · right
    obtain rfl := hselect hfirst
    obtain ⟨e, rfl, hkeep⟩ | ⟨_, t₃, t₄, rfl, hkeep, hreturn⟩ := settles_bind.mp hrest
    · obtain ⟨_, _, hok⟩ := settles_observe.mp hkeep
      cases hok
    · obtain ⟨_, rfl, _⟩ := settles_observe.mp hkeep
      obtain ⟨rfl, rfl⟩ := settles_pure.mp hreturn
      exact ⟨value, rfl, rfl⟩

theorem settles_queryTable {columns : TableMeta}
    (h : Settles (queryTable true connection table columns key) t res) :
    (∃ e, lookupSql connection table columns key = .error e ∧ res = .error e ∧ t = []) ∨
      ∃ sql, lookupSql connection table columns key = .ok sql ∧
        Settles (queryLookup true connection (table ++ "|" ++ key) sql) t res := by
  unfold queryTable at h
  rcases hsql : lookupSql connection table columns key with e | sql <;> rw [hsql] at h
  · obtain ⟨rfl, rfl⟩ := settles_throw.mp h
    exact .inl ⟨e, rfl, rfl, rfl⟩
  · exact .inr ⟨sql, rfl, h⟩

theorem ResolverStep.cached_eq {binding : Binding} {cacheKey : String} {r : Option (Option String)}
    (h : ResolverStep (.cached binding cacheKey) st r st') :
    r = st.caches binding cacheKey ∧ st' = st := by
  cases h
  exact ⟨rfl, rfl⟩

/-- What a resolver that found nothing in its cache does: a query, if there is one to make. -/
theorem resolved_query {columns : TableMeta} (htable : tableMeta table = some columns)
    (hmiss : st.caches connection.binding (table ++ "|" ++ key) = none)
    (h : Exec ResolverStep (queryTable true connection table columns key).run st t res st')
    (ev : ResolverEv) (hquiet : queried ev = none) (hquiet' : queriedOk ev = none) :
    Resolved connection table key st (ev :: t) res st' := by
  have hne : tableMeta table ≠ none := by simp [htable]
  obtain ⟨hruns, hsteps⟩ := h
  obtain ⟨e, hsql, rfl, rfl⟩ | ⟨sql, hsql, hquery⟩ := settles_queryTable hruns
  · obtain rfl := steps_nil.mp hsteps
    exact .failed hne e (by simp [hquiet']) (by simp [hquiet])
  · obtain ⟨e, rfl, rfl⟩ | ⟨value, rfl, rfl⟩ := settles_queryLookup hquery
    · obtain ⟨st₁, hstep, hnil⟩ := steps_cons.mp hsteps
      obtain rfl := steps_nil.mp hnil
      cases hstep
      refine .failed hne e (List.filterMap_cons_none hquiet') fun sql' hsql' => ?_
      rw [List.filterMap_cons_none hquiet] at hsql'
      obtain rfl := List.mem_singleton.mp hsql'
      exact lookupSql_binding hsql
    · obtain ⟨st₁, hstep, hrest⟩ := steps_cons.mp hsteps
      cases hstep
      obtain ⟨st₂, hkeep, hnil⟩ := steps_cons.mp hrest
      obtain rfl := steps_nil.mp hnil
      cases hkeep
      exact .found htable hsql hmiss (List.filterMap_cons_none hquiet)
        (List.filterMap_cons_none hquiet') (by simp)

/-- A lookup ends in one of these ways. -/
theorem exec_resolveLookup
    (h : Exec ResolverStep (resolveLookup true connection table key).run st t res st') :
    Resolved connection table key st t res st' := by
  unfold resolveLookup at h
  rcases htable : tableMeta table with _ | columns <;> rw [htable] at h
  · obtain ⟨hruns, hsteps⟩ := h
    obtain ⟨rfl, rfl⟩ := settles_throw.mp hruns
    obtain rfl := steps_nil.mp hsteps
    exact .unknown htable
  · obtain ⟨hruns, hsteps⟩ := h
    obtain ⟨e, rfl, hcached⟩ | ⟨found, t₁, t₂, rfl, hcached, hrest⟩ := settles_bind.mp hruns
    · obtain ⟨_, _, hok⟩ := settles_observe.mp hcached
      cases hok
    · obtain ⟨_, rfl, hok⟩ := settles_observe.mp hcached
      obtain rfl := Except.ok.inj hok
      obtain ⟨st₁, hstep, hlater⟩ := steps_cons.mp hsteps
      obtain ⟨hkept, rfl⟩ := hstep.cached_eq
      rcases found with _ | value
      · exact resolved_query htable hkept.symm ⟨hrest, hlater⟩ _ rfl rfl
      · obtain ⟨rfl, rfl⟩ := settles_pure.mp hrest
        obtain rfl := steps_nil.mp hlater
        exact .kept (by simp [htable]) rfl rfl hkept.symm

end Lookup

/-! ## A whole delivery -/

/-- An entry was read, by a query of its own connection, table and key. -/
def ReadEntry (t : List ResolverEv) (connection : Connection) (table key : String)
    (value : Option String) : Prop :=
  ∃ columns sql, tableMeta table = some columns ∧
    lookupSql connection table columns key = .ok sql ∧ ⟨.select sql, .ok value⟩ ∈ t

/-- Tables are known, or an answer that there is none is given; what is answered was kept. -/
def KeptAnswer (st : ResolverState) (connection : Connection) (table key : String)
    (r : Except Thrown (Option String)) : Prop :=
  (tableMeta table = none → r = .error (unknownTable table)) ∧
    ∀ value, r = .ok value → st.caches connection.binding (table ++ "|" ++ key) = some value

/-- What holds after the operations `tr` of a delivery, which were answered by the operations
`t`. -/
structure Snapshot (w : World) (st : ResolverState) (tr : List Ev) (t : List ResolverEv) :
    Prop where
  steps : World.Steps w tr st.world
  kept : ∀ connection table key r, answered (.resolveLookup connection table key) r ∈ tr →
    KeptAnswer st connection table key r
  read : ∀ binding cacheKey value, st.caches binding cacheKey = some value →
    ∃ connection table key, connection.binding = binding ∧ cacheKey = table ++ "|" ++ key ∧
      ReadEntry t connection table key value
  asked : ∀ sql ∈ t.filterMap queriedOk, ∃ connection table columns key,
    lookupSql connection table columns key = .ok sql ∧
      st.caches connection.binding (table ++ "|" ++ key) ≠ none
  nodup : (t.filterMap queriedOk).Nodup

theorem snapshot_nil (w : World) : Snapshot w ⟨fun _ _ => none, w⟩ [] [] where
  steps := .nil w
  kept := by simp
  read := by simp
  asked := by simp
  nodup := .nil

section Snapshot

variable {w : World} {st st' : ResolverState} {tr : List Ev} {t t' : List ResolverEv}
  {connection : Connection} {table key : String} {res : Except Thrown (Option String)}

theorem ReadEntry.append {value : Option String} (h : ReadEntry t connection table key value)
    (t' : List ResolverEv) : ReadEntry (t ++ t') connection table key value := by
  obtain ⟨columns, sql, htable, hsql, hmem⟩ := h
  exact ⟨columns, sql, htable, hsql, List.mem_append_left _ hmem⟩

@[simp] theorem ResolverState.keep_world (binding : Binding) (cacheKey : String)
    (value : Option String) : (st.keep binding cacheKey value).world = st.world := rfl

theorem ResolverState.keep_caches (binding binding' : Binding) (cacheKey cacheKey' : String)
    (value : Option String) :
    (st.keep binding cacheKey value).caches binding' cacheKey' =
      if binding' = binding ∧ cacheKey' = cacheKey then some value
      else st.caches binding' cacheKey' := by
  by_cases hbinding : binding' = binding
  · subst hbinding
    simp [ResolverState.keep, Function.update_apply]
  · simp [ResolverState.keep, hbinding]

/-- What is kept stays. -/
theorem ResolverState.keep_of_kept {binding binding' : Binding} {cacheKey cacheKey' : String}
    {value value' : Option String} (hmiss : st.caches binding cacheKey = none)
    (h : st.caches binding' cacheKey' = some value') :
    (st.keep binding cacheKey value).caches binding' cacheKey' = some value' := by
  rw [ResolverState.keep_caches, if_neg]
  · exact h
  · rintro ⟨rfl, rfl⟩
    cases hmiss.symm.trans h

/-- Operations that neither read nor keep an entry. -/
theorem Snapshot.quiet (h : Snapshot w st tr t) {ev : Ev} {w' : World}
    (hstep : World.Step ev.1 st.world ev.2 w') (hquiet : t'.filterMap queriedOk = [])
    (hkept : ∀ connection table key r, answered (.resolveLookup connection table key) r = ev →
      KeptAnswer st connection table key r) :
    Snapshot w { st with world := w' } (tr ++ [ev]) (t ++ t') where
  steps := steps_append.mpr ⟨st.world, h.steps, .cons hstep (.nil w')⟩
  kept := by
    intro connection table key r hmem
    rcases List.mem_append.mp hmem with hmem | hmem
    · exact h.kept connection table key r hmem
    · exact hkept connection table key r (List.mem_singleton.mp hmem)
  read := by
    intro binding cacheKey value hcached
    obtain ⟨connection, table, key, hbinding, hkey, hread⟩ := h.read binding cacheKey value hcached
    exact ⟨connection, table, key, hbinding, hkey, hread.append t'⟩
  asked := by
    rw [List.filterMap_append, hquiet, List.append_nil]
    exact h.asked
  nodup := by
    rw [List.filterMap_append, hquiet, List.append_nil]
    exact h.nodup

/-- An entry that was not kept is read, and kept. -/
theorem Snapshot.found (h : Snapshot w st tr t) {columns : TableMeta} {sql : LookupSql}
    {value : Option String} (htable : tableMeta table = some columns)
    (hsql : lookupSql connection table columns key = .ok sql)
    (hmiss : st.caches connection.binding (table ++ "|" ++ key) = none)
    (hown : t'.filterMap queriedOk = [sql]) (hread : ⟨.select sql, .ok value⟩ ∈ t') :
    Snapshot w (st.keep connection.binding (table ++ "|" ++ key) value)
      (tr ++ [answered (.resolveLookup connection table key) (.ok value)]) (t ++ t') where
  steps := steps_append.mpr ⟨st.world, h.steps, .cons (.outside rfl _) (.nil _)⟩
  kept := by
    intro connection' table' key' r hmem
    rcases List.mem_append.mp hmem with hmem | hmem
    · have hkept := h.kept connection' table' key' r hmem
      exact ⟨hkept.1, fun value hr => ResolverState.keep_of_kept hmiss (hkept.2 value hr)⟩
    · cases List.mem_singleton.mp hmem
      refine ⟨fun hnone => ?_, ?_⟩
      · cases htable.symm.trans hnone
      · rintro _ ⟨⟩
        rw [ResolverState.keep_caches, if_pos ⟨rfl, rfl⟩]
  read := by
    intro binding cacheKey value' hcached
    rw [ResolverState.keep_caches] at hcached
    split at hcached
    · next heq =>
      obtain ⟨rfl, rfl⟩ := heq
      obtain rfl := Option.some.inj hcached
      exact ⟨connection, table, key, rfl, rfl, columns, sql, htable, hsql,
        List.mem_append_right _ hread⟩
    · obtain ⟨connection', table', key', hbinding, hkey, hread'⟩ := h.read _ _ _ hcached
      exact ⟨connection', table', key', hbinding, hkey, hread'.append t'⟩
  asked := by
    intro sql' hsql'
    rw [List.filterMap_append, hown] at hsql'
    rcases List.mem_append.mp hsql' with hsql' | hsql'
    · obtain ⟨connection', table', columns', key', hsql'', hkept⟩ := h.asked sql' hsql'
      obtain ⟨value', hkept⟩ := Option.ne_none_iff_exists'.mp hkept
      refine ⟨connection', table', columns', key', hsql'', ?_⟩
      simp [ResolverState.keep_of_kept hmiss hkept]
    · obtain rfl := List.mem_singleton.mp hsql'
      refine ⟨connection, table, columns, key, hsql, ?_⟩
      simp [ResolverState.keep_caches]
  nodup := by
    rw [List.filterMap_append, hown]
    refine List.nodup_append.mpr ⟨h.nodup, List.nodup_singleton sql, ?_⟩
    rintro sql₁ hsql₁ sql₂ hsql₂ rfl
    obtain rfl := List.mem_singleton.mp hsql₂
    obtain ⟨connection', table', columns', key', hsql', hkept⟩ := h.asked _ hsql₁
    obtain ⟨hbinding, rfl, rfl⟩ := lookupSql_inj hsql hsql'
    exact hkept (hbinding ▸ hmiss)

/-- A lookup keeps the snapshot. -/
theorem Snapshot.lookup (h : Snapshot w st tr t)
    (hend : Resolved connection table key st t' res st') :
    Snapshot w st' (tr ++ [answered (.resolveLookup connection table key) res]) (t ++ t') := by
  have hstep : World.Step (.io (.resolveLookup connection table key)) st.world res st.world :=
    @World.Step.outside (.resolveLookup connection table key) st.world rfl res
  cases hend with
  | unknown hnone =>
    refine h.quiet hstep rfl ?_
    rintro _ _ _ _ ⟨⟩
    exact ⟨fun _ => rfl, fun _ hok => by cases hok⟩
  | failed hne e hquiet _ =>
    refine h.quiet hstep hquiet ?_
    rintro _ _ _ _ ⟨⟩
    exact ⟨fun hnone => absurd hnone hne, fun _ hok => by cases hok⟩
  | kept hne _ hquiet' hkept =>
    refine h.quiet hstep hquiet' ?_
    rintro _ _ _ _ ⟨⟩
    refine ⟨fun hnone => absurd hnone hne, ?_⟩
    rintro _ ⟨⟩
    exact hkept
  | found htable hsql hmiss _ hown' hread => exact h.found htable hsql hmiss hown' hread

theorem withResolver_other {cacheEnabled : Bool} {o : Op}
    (hother : ∀ connection table key, o ≠ .io (.resolveLookup connection table key)) :
    withResolver cacheEnabled o = Prog.perform (ResolverOp.other o) := by
  rcases o with c | _ | _
  · cases c <;> first | rfl | exact absurd rfl (hother _ _ _)
  · rfl
  · rfl

/-- Every operation keeps the snapshot. -/
theorem Snapshot.step (h : Snapshot w st tr t) {o : Op} {r : o.Resp}
    (hexec : Exec ResolverStep (withResolver true o) st t' r st') :
    Snapshot w st' (tr ++ [⟨o, r⟩]) (t ++ t') := by
  by_cases hlookup : ∃ connection table key, o = .io (.resolveLookup connection table key)
  · obtain ⟨connection, table, key, rfl⟩ := hlookup
    exact h.lookup (exec_resolveLookup hexec)
  · have hother : ∀ connection table key, o ≠ .io (.resolveLookup connection table key) :=
      fun connection table key heq => hlookup ⟨connection, table, key, heq⟩
    rw [withResolver_other hother] at hexec
    obtain rfl := runs_perform.mp hexec.runs
    obtain ⟨st₁, hstep, hnil⟩ := steps_cons.mp hexec.steps
    obtain rfl := steps_nil.mp hnil
    cases hstep with
    | other hstep =>
      refine h.quiet hstep rfl fun connection table key r heq => ?_
      exact absurd (Sigma.mk.inj heq).1.symm (hother connection table key)

theorem not_mem_bar_of_tableMeta (h : tableMeta table ≠ none) : '|' ∉ table.toList := by
  have hnames : ∀ name ∈ lookupTables.map Prod.fst ++ objectMembers, '|' ∉ name.toList := by
    simp [lookupTables, objectMembers]
  refine hnames table (List.mem_append.mpr ?_)
  rcases hfind : lookupTables.find? (fun entry => entry.1 = table) with _ | entry
  · right
    by_contra hmember
    exact h (by simp [tableMeta, hfind, hmember])
  · left
    rw [← of_decide_eq_true (List.find?_eq_some_iff_append.mp hfind).1]
    exact List.mem_map_of_mem (List.mem_of_find?_eq_some hfind)

/-- What is kept was read by a query for the very entry: no table has a bar in its name. -/
theorem Snapshot.read_of_kept (h : Snapshot w st tr t) {value : Option String}
    (htable : tableMeta table ≠ none)
    (hkept : st.caches connection.binding (table ++ "|" ++ key) = some value) :
    ReadEntry t connection table key value := by
  obtain ⟨connection', table', key', hbinding, hkey, columns, sql, htable', hsql, hmem⟩ :=
    h.read _ _ _ hkept
  have hchars := congrArg String.toList hkey
  simp only [String.toList_append, List.append_assoc] at hchars
  obtain ⟨hsame, hrest⟩ := Js.append_cons_inj_of_left (not_mem_bar_of_tableMeta htable)
    (not_mem_bar_of_tableMeta (by simp [htable'])) hchars
  obtain rfl := String.toList_inj.mp hsame
  obtain rfl := String.toList_inj.mp hrest
  obtain ⟨henvironment, hid⟩ := Prod.mk.inj hbinding
  refine ⟨columns, sql, htable', ?_, hmem⟩
  rw [← hsql]
  simp only [lookupSql, henvironment, hid]

/-- The queries of a lookup are about the connection of the resolver. -/
theorem Resolved.own (h : Resolved connection table key st t res st') :
    ∀ sql ∈ t.filterMap queried, (sql.environment, sql.connectionId) = connection.binding := by
  intro sql hsql
  cases h with
  | unknown _ => cases hsql
  | failed _ _ _ hown => exact hown sql hsql
  | kept _ hquiet _ _ =>
    rw [hquiet] at hsql
    cases hsql
  | found _ hsql' _ hown _ _ =>
    rw [hown] at hsql
    obtain rfl := List.mem_singleton.mp hsql
    exact lookupSql_binding hsql'

/-- A delivery queries the tables for its own connection. -/
theorem deliver_queries_own {d : Delivery} {res : Except Thrown OrderHandlerOutcome}
    (hruns : Runs (deliver d).run tr res)
    (hhandled : Served ResolverStep (withResolver true) st tr t st') :
    ∀ sql ∈ t.filterMap queried, (sql.environment, sql.connectionId) = d.connection.binding := by
  intro sql hsql
  obtain ⟨ev, hev, hqueried⟩ := List.mem_filterMap.mp hsql
  obtain ⟨o, r, hmem, st₁, t₁, st₂, hexec, hev⟩ := hhandled.exists_of_mem hev
  have hsql : sql ∈ t₁.filterMap queried := List.mem_filterMap.mpr ⟨ev, hev, hqueried⟩
  by_cases hlookup : ∃ connection table key, o = .io (.resolveLookup connection table key)
  · obtain ⟨connection, table, key, rfl⟩ := hlookup
    have hown := (exec_resolveLookup hexec).own sql hsql
    cases makes_deliver tr res hruns _ hmem _ _ rfl with
    | prepare hprepare =>
      cases hprepare
      exact hown
  · have hother : ∀ connection table key, o ≠ .io (.resolveLookup connection table key) :=
      fun connection table key heq => hlookup ⟨connection, table, key, heq⟩
    rw [withResolver_other hother] at hexec
    obtain rfl := runs_perform.mp hexec.runs
    cases hsql

end Snapshot

/-- However the tables change while a delivery runs, it runs as if its lookups were answered from
tables that do not change: every entry it has was read by a query for that entry, none is read
twice, and all queries are about its own connection. -/
theorem deliver_reads_snapshot {d : Delivery} {w : World} {t : List ResolverEv}
    {res : Except Thrown OrderHandlerOutcome} {st : ResolverState}
    (hexec : Exec ResolverStep ((deliver d).run.handle (withResolver true)) ⟨fun _ _ => none, w⟩
      t res st) :
    ∃ (tr : List Ev) (tables : String → String → Option String),
      Exec World.Step (deliver d).run w tr res st.world ∧
      (∀ table key r, answered (.resolveLookup d.connection table key) r ∈ tr →
        (tableMeta table = none → r = .error (unknownTable table)) ∧
        ∀ value, r = .ok value →
          value = tables table key ∧ ReadEntry t d.connection table key value) ∧
      (t.filterMap queriedOk).Nodup ∧
      ∀ sql ∈ t.filterMap queried, (sql.environment, sql.connectionId) = d.connection.binding := by
  obtain ⟨tr, hruns, hhandled⟩ := exec_handle.mp hexec
  have hsnapshot : Snapshot w st ([] ++ tr) ([] ++ t) :=
    hhandled.preserves (fun _ _ _ _ _ _ _ hI hcall => hI.step hcall) (snapshot_nil w)
  simp only [List.nil_append] at hsnapshot
  refine ⟨tr, fun table key => (st.caches d.connection.binding (table ++ "|" ++ key)).getD none,
    ⟨hruns, hsnapshot.steps⟩, ?_, hsnapshot.nodup, deliver_queries_own hruns hhandled⟩
  intro table key r hmem
  obtain ⟨hunknown, hkept⟩ := hsnapshot.kept _ _ _ _ hmem
  refine ⟨hunknown, ?_⟩
  rintro value rfl
  have hcached := hkept value rfl
  have htable : tableMeta table ≠ none := fun hnone => by cases hunknown hnone
  exact ⟨by simp only [hcached, Option.getD_some], hsnapshot.read_of_kept htable hcached⟩

namespace Shop

/-- Lookup tables with every entry, and services that are up. -/
def serveResolver : (o : ResolverOp) → ResolverState → o.Resp × ResolverState
  | .other o, st => ((up.respond o st.world).1, { st with world := (up.respond o st.world).2 })
  | .cached binding cacheKey, st => (st.caches binding cacheKey, st)
  | .select _, st => (.ok (some "7"), st)
  | .keep binding cacheKey value, st => ((), st.keep binding cacheKey value)

theorem step_serveResolver (o : ResolverOp) (st : ResolverState) :
    ResolverStep o st (serveResolver o st).1 (serveResolver o st).2 := by
  cases o with
  | other o => exact .other (up.step_respond o st.world)
  | cached binding cacheKey => exact .cached
  | select sql => exact .select _
  | keep binding cacheKey value => exact .keep

/-- A delivery of the shop's order with its resolver. -/
def resolverRun : List ResolverEv × Except Thrown OrderHandlerOutcome × ResolverState :=
  ((deliver (delivery (message none "orders/create"))).run.handle (withResolver true)).execute
    serveResolver ⟨fun _ _ => none, world⟩

/-- The delivery asks for its currency, once. -/
theorem deliver_reads_snapshot_shop :
    (resolverRun.1.filterMap queriedOk).length = 1 ∧ (resolverRun.1.filterMap queriedOk).Nodup ∧
      ∃ tr, Exec World.Step (deliver (delivery (message none "orders/create"))).run world tr
        resolverRun.2.1 resolverRun.2.2.world := by
  obtain ⟨tr, tables, hexec, _, hnodup, _⟩ :=
    deliver_reads_snapshot (Prog.exec_execute step_serveResolver
      ((deliver (delivery (message none "orders/create"))).run.handle (withResolver true))
      ⟨fun _ _ => none, world⟩)
  exact ⟨by decide +kernel, hnodup, tr, hexec⟩

end Shop

end DpIntegrator
