import DpIntegrator.Core.Keys
import DpIntegrator.Delivery.Responses
import DpIntegrator.Functions.DeadLetter
import DpIntegrator.Js.Map

/-!
# Quarantined dead letters

What the dead-letter handler leaves in the error store. Records are written open; only the record of
an order of a known connection is quarantined afterwards.
-/

namespace DpIntegrator

open Effects

/-! ## The error store in memory -/

structure DlqErrorRecord extends DlqErrorInput where
  id : String
  retryCount : ℕ
  status : ErrorStatus
  createdAt : ℤ
  updatedAt : ℤ

/-- The id of the record with a number. -/
def errorId (seq : ℕ) : String := "err_" ++ Js.padNumber 8 seq

theorem errorId_inj {m n : ℕ} (h : errorId m = errorId n) : m = n := by
  have hlist := congrArg String.toList h
  unfold errorId at hlist
  rw [String.toList_append, String.toList_append, List.append_cancel_left_eq] at hlist
  exact Js.padNumber_inj (String.toList_inj.mp hlist)

structure InMemoryErrorStore where
  rows : Js.Map String DlqErrorRecord
  seq : ℕ
  /-- The ids in use have been counted. -/
  numbered : ∀ id record, rows.get id = some record → ∃ n ≤ seq, id = errorId n

namespace InMemoryErrorStore

def empty : InMemoryErrorStore where
  rows := .empty
  seq := 0
  numbered id record h := by
    rw [Js.Map.get_empty] at h
    cases h

/-- The id of the next record. -/
def nextId (store : InMemoryErrorStore) : String := errorId (store.seq + 1)

theorem get_nextId (store : InMemoryErrorStore) : store.rows.get store.nextId = none := by
  cases hrow : store.rows.get store.nextId with
  | none => rfl
  | some record =>
    obtain ⟨n, hn, hid⟩ := store.numbered _ _ hrow
    have heq := errorId_inj hid
    omega

def record (store : InMemoryErrorStore) (input : DlqErrorInput) (now : ℤ) : InMemoryErrorStore where
  rows := store.rows.set store.nextId
    { input with
      id := store.nextId
      retryCount := 0
      status := .open_
      createdAt := now
      updatedAt := now }
  seq := store.seq + 1
  numbered id record h := by
    by_cases hid : id = store.nextId
    · exact ⟨store.seq + 1, le_refl _, hid⟩
    · rw [Js.Map.get_set_of_ne hid] at h
      obtain ⟨n, hn, heq⟩ := store.numbered id record h
      exact ⟨n, by omega, heq⟩

def updateStatus (store : InMemoryErrorStore) (id : String) (status : ErrorStatus) (now : ℤ) :
    Except Thrown InMemoryErrorStore :=
  match h : store.rows.get id with
  | none => .error (newError ("InMemoryErrorStore: no error record " ++ id))
  | some existing => .ok
    { rows := store.rows.set id { existing with status, updatedAt := now }
      seq := store.seq
      numbered := by
        intro id' record h'
        by_cases hid : id' = id
        · exact hid ▸ store.numbered id existing h
        · rw [Js.Map.get_set_of_ne hid] at h'
          exact store.numbered id' record h' }

/-- A record changes status, and nothing else does. -/
theorem updateStatus_eq_ok {store : InMemoryErrorStore} {id : String} {existing : DlqErrorRecord}
    (h : store.rows.get id = some existing) (status : ErrorStatus) (now : ℤ) :
    ∃ store', store.updateStatus id status now = .ok store' ∧ store'.rows.get =
      Function.update store.rows.get id (some { existing with status, updatedAt := now }) := by
  unfold updateStatus
  split
  · rename_i hnone
    rw [h] at hnone
    cases hnone
  · rename_i found hfound
    obtain rfl := Option.some.inj (h.symm.trans hfound)
    exact ⟨_, rfl, Js.Map.get_set ..⟩

/-- `store'` has one row more than `store`: a quarantined one with the message. -/
def AddsQuarantined (store : InMemoryErrorStore) (message : Js.Value) (store' : InMemoryErrorStore) :
    Prop :=
  ∃ id record, store.rows.get id = none ∧
    store'.rows.get = Function.update store.rows.get id (some record) ∧
    record.status = .quarantined ∧ record.envelope = message

/-- An open record is not a quarantined one. -/
theorem not_addsQuarantined_record (store : InMemoryErrorStore) (input : DlqErrorInput) (now : ℤ)
    (message : Js.Value) : ¬store.AddsQuarantined message (store.record input now) := by
  rintro ⟨id, record, _, hrows, hstatus, _⟩
  have hnew := Js.Map.get_set_self store.rows store.nextId
    { input with
      id := store.nextId, retryCount := 0, status := .open_, createdAt := now, updatedAt := now }
  have hget : (store.record input now).rows.get store.nextId = _ := hnew
  rw [hrows] at hget
  by_cases hid : store.nextId = id
  · rw [← hid, Function.update_self] at hget
    rw [Option.some.inj hget] at hstatus
    cases hstatus
  · rw [Function.update_of_ne hid, get_nextId] at hget
    cases hget

/-- A new record can be quarantined, and is the one record that is added. -/
theorem quarantine_record (store : InMemoryErrorStore) (input : DlqErrorInput) (now later : ℤ) :
    ∃ store', (store.record input now).updateStatus store.nextId .quarantined later = .ok store' ∧
      store.AddsQuarantined input.envelope store' := by
  have hset : (store.record input now).rows.get =
      Function.update store.rows.get store.nextId (some
        { input with
          id := store.nextId, retryCount := 0, status := .open_, createdAt := now
          updatedAt := now }) := Js.Map.get_set ..
  have hrow := congrFun hset store.nextId
  rw [Function.update_self] at hrow
  obtain ⟨store', hok, hrows⟩ := updateStatus_eq_ok hrow .quarantined later
  rw [hset, Function.update_idem] at hrows
  exact ⟨store', hok, store.nextId, _, store.get_nextId, hrows, rfl, rfl⟩

end InMemoryErrorStore

/-! ## What the handler leaves -/

/-- How the calls of the handler are answered with the error store in memory: connections are found
by `find`, and the other stores answer in any way. -/
def ErrorStoreStep (find : String → String → Except Thrown (Option Connection)) (o : DlqOp)
    (store : InMemoryErrorStore) (r : o.Resp) (store' : InMemoryErrorStore) : Prop :=
  match o with
  | .io (.findConnection environment connectionId) =>
    r = find environment connectionId ∧ store' = store
  | .io (.recordError input) => ∃ now, r = .ok store.nextId ∧ store' = store.record input now
  | .io (.updateStatus id status) => ∃ now,
    (∃ e, store.updateStatus id status now = .error e ∧ r = .error e ∧ store' = store) ∨
      store.updateStatus id status now = .ok store' ∧ r = .ok ()
  | _ => store' = store

/-- A dead letter that the handler quarantines: an envelope of a known connection, whose order has a
dedup key. -/
structure Quarantinable (find : String → String → Except Thrown (Option Connection))
    (message : Js.Value) (env : DlqEnvelope) : Prop where
  parses : parseEnvelope message = .ok env
  separates : ∀ v ∈ [env.environment, env.connectionId, env.orderGid], '|' ∉ v.toList
  known : ∃ connection, find env.environment env.connectionId = .ok (some connection)

section

variable {find : String → String → Except Thrown (Option Connection)} {deps : DlqHandlerDeps}
  {message : Js.Value} {context : DlqContext} {env : DlqEnvelope} {store store' : InMemoryErrorStore}
  {tr : List DlqEv} {n : ℕ}

theorem exec_ofErrorStore {input : DlqErrorInput} {res : Except Thrown String}
    (h : Exec (ErrorStoreStep find) (DlqAsync.io (.recordError input)).run store tr res store') :
    ∃ now, res = .ok store.nextId ∧ store' = store.record input now := exec_dlqIo h

/-- The new record is quarantined. -/
theorem exec_updateStatus {input : DlqErrorInput} {now : ℤ} {res : Except Thrown Unit}
    (h : Exec (ErrorStoreStep find) (DlqAsync.io (.updateStatus store.nextId .quarantined)).run
      (store.record input now) tr res store') :
    res = .ok () ∧ store.AddsQuarantined input.envelope store' := by
  obtain ⟨later, hupdate⟩ := exec_dlqIo h
  obtain ⟨store₁, hok, hadds⟩ := store.quarantine_record input now later
  rw [hok] at hupdate
  obtain ⟨e, herror, _⟩ | ⟨heq, hres⟩ := hupdate
  · cases herror
  · exact ⟨hres, Except.ok.inj heq ▸ hadds⟩

/-- The attempt row leaves the error store alone. -/
theorem recordQuarantine_keeps {summary : String} {res : Except Thrown Unit}
    (h : Exec (ErrorStoreStep find) (recordQuarantine deps env summary n).run store tr res store') :
    res = .ok () ∧ store' = store := by
  unfold recordQuarantine at h
  split at h
  · obtain ⟨e, _, hnow⟩ | ⟨now, store₁, t₁, t₂, hnow, hrest⟩ := exec_bind h
    · obtain ⟨_, heq, _⟩ := exec_observe hnow
      cases heq
    obtain ⟨_, _, hclock⟩ := exec_observe hnow
    obtain rfl : store₁ = store := hclock
    obtain ⟨rfl, _, res', hrecord⟩ := exec_swallow hrest
    exact ⟨rfl, exec_dlqIo hrecord⟩
  · exact exec_pure h

/-- The bump of the ledger leaves the error store alone. -/
theorem bumpLedger_keeps {res : Except Thrown Unit}
    (h : Exec (ErrorStoreStep find) (bumpLedger deps env n).run store tr res store') :
    res = .ok () ∧ store' = store := by
  unfold bumpLedger at h
  split at h
  · obtain ⟨rfl, _, res', hbody⟩ := exec_swallow h
    refine ⟨rfl, ?_⟩
    obtain ⟨e, _, hfind⟩ | ⟨found, store₁, t₁, t₂, hfind, hrest⟩ := exec_bind hbody
    · exact exec_dlqIo hfind
    obtain rfl : store₁ = store := exec_dlqIo hfind
    cases found with
    | none => exact (exec_pure hrest).2
    | some existing => exact exec_dlqIo hrest
  · exact exec_pure h

theorem dlqField_ne {key s : String} (h : dlqField message key = .ok s) : s ≠ "" := by
  unfold dlqField at h
  split at h
  · split at h
    · cases h
    · rename_i hne
      cases h
      exact hne
  · cases h

/-- An envelope carries its message, and the parts of its dedup key are not empty. -/
theorem parseEnvelope_eq_ok (h : parseEnvelope message = .ok env) : env.raw = message ∧
    env.environment ≠ "" ∧ env.connectionId ≠ "" ∧ env.orderGid ≠ "" := by
  unfold parseEnvelope at h
  dsimp only at h
  split at h
  · cases h
  split at h
  · cases h
  obtain ⟨environment, henvironment, h⟩ := bind_eq_ok.mp h
  obtain ⟨connectionId, hconnection, h⟩ := bind_eq_ok.mp h
  obtain ⟨shopDomain, _, h⟩ := bind_eq_ok.mp h
  obtain ⟨topic, _, h⟩ := bind_eq_ok.mp h
  obtain ⟨orderGid, hgid, h⟩ := bind_eq_ok.mp h
  cases h
  exact ⟨rfl, dlqField_ne henvironment, dlqField_ne hconnection, dlqField_ne hgid⟩

/-- The order of an envelope has a dedup key if and only if no component has the separator. -/
theorem dedupKey_isOk_iff (hparse : parseEnvelope message = .ok env) :
    (∃ dedup, env.dedupKey = .ok dedup) ↔
      ∀ v ∈ [env.environment, env.connectionId, env.orderGid], '|' ∉ v.toList := by
  obtain ⟨_, henvironment, hconnection, hgid⟩ := parseEnvelope_eq_ok hparse
  have hsep (v : String) : Js.includes v "|" = false ↔ '|' ∉ v.toList := by
    rw [← Bool.not_eq_true]
    exact not_congr Js.occurs_singleton
  have hwords : (EntityType.order.text ≠ "" ∧ '|' ∉ EntityType.order.text.toList) ∧
      System.shopify.text ≠ "" ∧ '|' ∉ System.shopify.text.toList := by decide
  have hproblem (json : String) : dedupKeyProblem json [env.environment, env.connectionId,
      EntityType.order.text, System.shopify.text, env.orderGid] = none ↔
        ∀ v ∈ [env.environment, env.connectionId, env.orderGid], '|' ∉ v.toList := by
    rw [dedupKeyProblem_eq_none]
    simp only [List.forall_mem_cons, henvironment, hconnection, hgid, hwords, hsep, ne_eq,
      not_false_eq_true, true_and, List.not_mem_nil, false_imp_iff, implies_true]
  unfold DlqEnvelope.dedupKey
  dsimp only
  rw [← hproblem]
  cases dedupKeyProblem _ [env.environment, env.connectionId, EntityType.order.text,
      System.shopify.text, env.orderGid] with
  | none => simp
  | some message => simp

/-- The handler quarantines what it can. -/
theorem quarantine_adds {res : Except Thrown DlqOutcome} {dedup : String}
    (hdedup : env.dedupKey = .ok dedup)
    (h : Exec (ErrorStoreStep find) (quarantine deps env context).run store tr res store') :
    (∃ outcome, res = .ok outcome) ∧ store.AddsQuarantined env.raw store' := by
  unfold quarantine at h
  rw [hdedup] at h
  obtain ⟨e, _, hkey⟩ | ⟨key, store₁, t₁, t₂, hkey, hrest⟩ := exec_bind h
  · cases (exec_dlqOfExcept hkey).1
  obtain ⟨heq, rfl⟩ := exec_dlqOfExcept hkey
  obtain rfl := Except.ok.inj heq
  obtain ⟨e, _, hrecord⟩ | ⟨id, store₂, t₃, t₄, hrecord, hrest₁⟩ := exec_bind hrest
  · obtain ⟨_, heq, _⟩ := exec_ofErrorStore hrecord
    cases heq
  obtain ⟨now, hid, rfl⟩ := exec_ofErrorStore hrecord
  obtain rfl := Except.ok.inj hid
  obtain ⟨e, _, hstatus⟩ | ⟨_, store₃, t₅, t₆, hstatus, hrest₂⟩ := exec_bind hrest₁
  · cases (exec_updateStatus hstatus).1
  obtain ⟨_, hadds⟩ := exec_updateStatus hstatus
  obtain ⟨e, _, hattempt⟩ | ⟨_, store₄, t₇, t₈, hattempt, hrest₃⟩ := exec_bind hrest₂
  · cases (recordQuarantine_keeps hattempt).1
  obtain ⟨_, rfl⟩ := recordQuarantine_keeps hattempt
  obtain ⟨e, _, hbump⟩ | ⟨_, store₅, t₉, t₁₀, hbump, hret⟩ := exec_bind hrest₃
  · cases (bumpLedger_keeps hbump).1
  obtain ⟨_, rfl⟩ := bumpLedger_keeps hbump
  obtain ⟨rfl, rfl⟩ := exec_pure hret
  exact ⟨⟨_, rfl⟩, hadds⟩

/-- The handler quarantines what it can, and returns. -/
theorem quarantined_of_quarantinable {res : Except Thrown DlqOutcome}
    (herrors : deps.errorStore = true) (hletter : Quarantinable find message env)
    (h : Exec (ErrorStoreStep find) (handleDeadLetteredOrder deps message context).run store tr res
      store') : (∃ outcome, res = .ok outcome) ∧ store.AddsQuarantined message store' := by
  obtain ⟨hparse, hseparates, connection, hknown⟩ := hletter
  obtain ⟨dedup, hdedup⟩ := (dedupKey_isOk_iff hparse).mpr hseparates
  unfold handleDeadLetteredOrder at h
  rw [if_neg (by simp [herrors]), hparse] at h
  obtain ⟨e, _, hfind⟩ | ⟨found, store₁, t₁, t₂, hfind, hrest⟩ := exec_bind h
  · obtain ⟨hfailed, _⟩ := exec_dlqIo hfind
    rw [hknown] at hfailed
    cases hfailed
  obtain ⟨hfound, rfl⟩ := exec_dlqIo hfind
  rw [hknown] at hfound
  obtain rfl := Except.ok.inj hfound
  rw [← (parseEnvelope_eq_ok hparse).1]
  exact quarantine_adds hdedup hrest

/-- Only what it can quarantine leaves the handler returning and a quarantined record. -/
theorem quarantinable_of_quarantined {outcome : DlqOutcome} (herrors : deps.errorStore = true)
    (h : Exec (ErrorStoreStep find) (handleDeadLetteredOrder deps message context).run store tr
      (.ok outcome) store') (hadds : store.AddsQuarantined message store') :
    ∃ env, Quarantinable find message env := by
  unfold handleDeadLetteredOrder at h
  rw [if_neg (by simp [herrors])] at h
  cases hparse : parseEnvelope message with
  | error error =>
    rw [hparse] at h
    obtain ⟨e, herror, _⟩ | ⟨_, store₁, t₁, t₂, hrecord, hret⟩ := exec_bind h
    · cases herror
    obtain ⟨now, _, rfl⟩ := exec_ofErrorStore hrecord
    obtain ⟨_, rfl⟩ := exec_pure hret
    exact absurd hadds (store.not_addsQuarantined_record _ now message)
  | ok env =>
    rw [hparse] at h
    obtain ⟨e, herror, _⟩ | ⟨found, store₁, t₁, t₂, hfind, hrest⟩ := exec_bind h
    · cases herror
    obtain ⟨hfound, rfl⟩ := exec_dlqIo hfind
    cases found with
    | none =>
      obtain ⟨e, herror, _⟩ | ⟨dedup, store₂, t₃, t₄, hkey, hrest₁⟩ := exec_bind hrest
      · cases herror
      obtain ⟨_, rfl⟩ := exec_dlqOfExcept hkey
      obtain ⟨e, herror, _⟩ | ⟨_, store₃, t₅, t₆, hrecord, hret⟩ := exec_bind hrest₁
      · cases herror
      obtain ⟨now, _, rfl⟩ := exec_ofErrorStore hrecord
      obtain ⟨_, rfl⟩ := exec_pure hret
      exact absurd hadds (InMemoryErrorStore.not_addsQuarantined_record _ _ now message)
    | some connection =>
      obtain ⟨e, herror, _⟩ | ⟨dedup, store₂, t₃, t₄, hkey, _⟩ := exec_bind hrest
      · cases herror
      have hdedup := (exec_dlqOfExcept hkey).1
      exact ⟨env, hparse, (dedupKey_isOk_iff hparse).mp ⟨dedup, hdedup.symm⟩, connection, hfound.symm⟩

/-- A dead letter leaves one quarantined record with the message, and the handler returns, if and
only if the message is an envelope of a known connection whose order has a dedup key. -/
theorem dead_letter_quarantined_iff {res : Except Thrown DlqOutcome}
    (herrors : deps.errorStore = true)
    (h : Exec (ErrorStoreStep find) (handleDeadLetteredOrder deps message context).run store tr res
      store') :
    (∃ outcome, res = .ok outcome) ∧ store.AddsQuarantined message store' ↔
      ∃ env, Quarantinable find message env := by
  constructor
  · rintro ⟨⟨outcome, rfl⟩, hadds⟩
    exact quarantinable_of_quarantined herrors h hadds
  · rintro ⟨env, hletter⟩
    exact quarantined_of_quarantinable herrors hletter h

end

/-! ## Dead letters of a known connection and others -/

namespace Shop

/-- The handler with all its stores. -/
def quarantineDeps : DlqHandlerDeps where
  environment := .dev
  errorStore := true
  orderAttemptStore := true
  orderSyncLog := true

/-- A dead letter on its tenth delivery. -/
def tenthDelivery : DlqContext where
  deadLetterReason := some "MaxDeliveryCountExceeded"
  deadLetterErrorDescription := none
  deliveryCount := some 10

/-- The envelope of an order. -/
def letter (orderGid : String) : Js.Value :=
  .obj [("schemaVersion", .num 1), ("environment", .str "dev"), ("connectionId", .str "conn-a"),
    ("shopDomain", .str "a.myshopify.com"), ("topic", .str "orders/create"),
    ("orderGid", .str orderGid)]

/-- Whatever is sent, the handler has a run. -/
theorem exists_exec_handler (find : String → String → Except Thrown (Option Connection))
    (message : Js.Value) : ∃ tr res store', Exec (ErrorStoreStep find)
      (handleDeadLetteredOrder quarantineDeps message tenthDelivery).run .empty tr res store' := by
  refine exists_exec (fun o store => ?_) _ _
  cases o with
  | clock => exact ⟨0, store, rfl⟩
  | io c =>
    cases c with
    | findConnection environment connectionId => exact ⟨_, store, rfl, rfl⟩
    | recordError input => exact ⟨_, _, 0, rfl, rfl⟩
    | updateStatus id status =>
      cases hupdate : store.updateStatus id status 0 with
      | error e => exact ⟨.error e, store, 0, .inl ⟨e, hupdate, rfl, rfl⟩⟩
      | ok store' => exact ⟨.ok (), store', 0, .inr ⟨hupdate, rfl⟩⟩
    | recordAttempt input => exact ⟨.error .undefined, store, rfl⟩
    | findByOrderGid environment connectionId shopifyOrderGid => exact ⟨.ok none, store, rfl⟩
    | upsertSyncLog bump => exact ⟨.ok (), store, rfl⟩

/-- The connection of the shop is the only one. -/
def findConnection (_ connectionId : String) : Except Thrown (Option Connection) :=
  if connectionId = "conn-a" then .ok (some connection) else .ok none

theorem parseEnvelope_letter {orderGid : String} (h : orderGid ≠ "") : parseEnvelope (letter orderGid) =
    .ok ⟨"dev", "conn-a", "a.myshopify.com", "orders/create", orderGid, letter orderGid⟩ := by
  have hgid : dlqField (letter orderGid) "orderGid" = .ok orderGid := by
    change (if orderGid = "" then _ else _) = _
    rw [if_neg h]
  have hversion : strictEqual ((letter orderGid).prop "schemaVersion") (.num 1) = true := rfl
  have hfields : ∀ field ∈ [("environment", "dev"), ("connectionId", "conn-a"),
      ("shopDomain", "a.myshopify.com"), ("topic", "orders/create")],
      dlqField (letter orderGid) field.1 = .ok field.2 := by
    intro field hfield
    simp only [List.mem_cons, List.not_mem_nil, or_false] at hfield
    obtain rfl | rfl | rfl | rfl := hfield <;> rfl
  simp only [List.forall_mem_cons] at hfields
  unfold parseEnvelope
  dsimp only
  rw [hversion, hfields.1, hfields.2.1, hfields.2.2.1, hfields.2.2.2.1, hgid]
  rfl

theorem quarantinable_letter :
    ∃ env, Quarantinable findConnection (letter "gid://shopify/Order/1") env :=
  ⟨_, parseEnvelope_letter (by decide), by decide, connection, rfl⟩

end Shop

/-- The order of a known connection is quarantined. -/
theorem dead_letter_quarantined_iff_letter : ∃ tr res store',
    Exec (ErrorStoreStep Shop.findConnection) (handleDeadLetteredOrder Shop.quarantineDeps
      (Shop.letter "gid://shopify/Order/1") Shop.tenthDelivery).run .empty tr res store' ∧
    (∃ outcome, res = .ok outcome) ∧
    InMemoryErrorStore.empty.AddsQuarantined (Shop.letter "gid://shopify/Order/1") store' := by
  obtain ⟨tr, res, store', h⟩ :=
    Shop.exists_exec_handler Shop.findConnection (Shop.letter "gid://shopify/Order/1")
  exact ⟨tr, res, store', h, (dead_letter_quarantined_iff rfl h).mpr Shop.quarantinable_letter⟩

/-- A text, an order of an unknown connection and an order whose id has the separator are not
quarantined. -/
theorem dead_letter_not_quarantined :
    [(Shop.findConnection, Js.Value.str "not an envelope"),
      (fun _ _ => .ok none, Shop.letter "gid://shopify/Order/1"),
      (Shop.findConnection, Shop.letter "gid|1")].Forall fun p =>
      ¬∀ (deps : DlqHandlerDeps) (context : DlqContext) (store : InMemoryErrorStore) (tr : List DlqEv)
        (res : Except Thrown DlqOutcome) (store' : InMemoryErrorStore), deps.errorStore = true →
        Exec (ErrorStoreStep p.1) (handleDeadLetteredOrder deps p.2 context).run store tr res store' →
        (∃ outcome, res = .ok outcome) ∧ store.AddsQuarantined p.2 store' := by
  have hrefuted {find : String → String → Except Thrown (Option Connection)} {message : Js.Value}
      (hnot : ∀ env, ¬Quarantinable find message env) :
      ¬∀ (deps : DlqHandlerDeps) (context : DlqContext) (store : InMemoryErrorStore)
        (tr : List DlqEv) (res : Except Thrown DlqOutcome) (store' : InMemoryErrorStore),
        deps.errorStore = true → Exec (ErrorStoreStep find)
          (handleDeadLetteredOrder deps message context).run store tr res store' →
        (∃ outcome, res = .ok outcome) ∧ store.AddsQuarantined message store' := by
    intro h
    obtain ⟨tr, res, store', hexec⟩ := Shop.exists_exec_handler find message
    obtain ⟨⟨outcome, rfl⟩, hadds⟩ := h _ _ _ tr res store' rfl hexec
    obtain ⟨env, hletter⟩ := quarantinable_of_quarantined rfl hexec hadds
    exact hnot env hletter
  apply List.forall_iff_forall_mem.mpr
  intro p hp
  simp only [List.mem_cons, List.not_mem_nil, or_false] at hp
  obtain rfl | rfl | rfl := hp
  · refine hrefuted fun env hletter => ?_
    cases hletter.parses
  · refine hrefuted fun env hletter => ?_
    obtain ⟨connection, hknown⟩ := hletter.known
    cases hknown
  · refine hrefuted fun env hletter => ?_
    obtain rfl := Except.ok.inj
      ((Shop.parseEnvelope_letter (by decide : "gid|1" ≠ "")).symm.trans hletter.parses)
    exact hletter.separates "gid|1" (by simp) (by decide)

end DpIntegrator
