import DpIntegrator.Core.Keys
import DpIntegrator.Delivery.AfterImport
import DpIntegrator.Delivery.Producers
import DpIntegrator.Delivery.ReplayRace
import DpIntegrator.NetSuite.ExternalIds

/-!
# Which record an order becomes

A dedup key names an order by its environment, its connection and its Shopify id; the
record in NetSuite is named by the account, the record type and an external id that is made
from the Shopify id alone. Over any run this file says when two keys that were imported are
the same record.
-/

namespace DpIntegrator

open Effects

variable {w w' : World} {key : String} {tr : List Ev} {d : Delivery} {P : Preparations}
  {t : List Ev} {res : Except Thrown OrderHandlerOutcome} {targetId : String} {row : XrefRow}

/-! ## The write behind the record of an import -/

/-- The import was recorded right after the order upsert that returned its id, and no import
was recorded before. -/
def RecordedWrite (d : Delivery) (t : List Ev) (targetId : String) (row : XrefRow) : Prop :=
  ∃ pre payload u post, t = pre ++ upserted d payload (.ok u) :: succeeded d u (.ok row) :: post ∧
    u.internalId = targetId ∧ Only (fun ev => recordedBy ev = none) pre

theorem RecordedWrite.cons {ev : Ev} (h : RecordedWrite d t targetId row)
    (hev : recordedBy ev = none) : RecordedWrite d (ev :: t) targetId row := by
  obtain ⟨pre, payload, u, post, rfl, hu, hpre⟩ := h
  exact ⟨ev :: pre, payload, u, post, rfl, hu, .cons hev hpre⟩

theorem ImportExit.recordedWrite (h : ImportExit d P t res)
    (hmem : answered (.recordSuccess d.parts targetId d.msg.orderGid) (.ok row) ∈ t) :
    RecordedWrite d t targetId row := by
  obtain ⟨order, customer, payload, t', rfl, hwrite, hmem⟩ := h.recorded hmem
  obtain ⟨u, post, r, hu, rfl, _⟩ := hwrite.recorded hmem
  exact ⟨[_], payload, u, post, rfl, hu, .cons rfl .nil⟩

theorem ClaimExit.recordedWrite (h : ClaimExit d P t res)
    (hmem : answered (.recordSuccess d.parts targetId d.msg.orderGid) (.ok row) ∈ t) :
    RecordedWrite d t targetId row := by
  cases h with
  | failed | held => cases List.mem_singleton.mp hmem
  | claimed _ hclaimed =>
    obtain heq | hmem := List.mem_cons.mp hmem
    · cases heq
    refine RecordedWrite.cons ?_ rfl
    cases hclaimed with
    | returned himport => exact himport.recordedWrite hmem
    | @thrown _ t' _ _ himport hroute =>
      have hc : PipelineCall d (.recordSuccess d.parts targetId d.msg.orderGid) := .recordSuccess _
      obtain hmem | hmem := List.mem_append.mp hmem
      · obtain ⟨pre, payload, u, post, rfl, hu, hpre⟩ := himport.recordedWrite hmem
        exact ⟨pre, payload, u, post ++ t', by simp only [List.append_assoc, List.cons_append], hu,
          hpre⟩
      · exact absurd hmem (hroute.not_pipeline hc)

theorem DeliverExit.recordedWrite (h : DeliverExit d P t res)
    (hmem : answered (.recordSuccess d.parts targetId d.msg.orderGid) (.ok row) ∈ t) :
    RecordedWrite d t targetId row := by
  have hc : PipelineCall d (.recordSuccess d.parts targetId d.msg.orderGid) := .recordSuccess _
  cases h with
  | direct _ hclaim => exact hclaim.recordedWrite hmem
  | lookup => cases List.mem_singleton.mp hmem
  | unknown _ hignore =>
    obtain heq | hmem := List.mem_cons.mp hmem
    · cases heq
    · exact absurd hmem (hignore.not_pipeline hc)
  | known _ hclaim =>
    obtain heq | hmem := List.mem_cons.mp hmem
    · cases heq
    · exact (hclaim.recordedWrite hmem).cons rfl

/-- What a delivery did so far, if it recorded an import, has the upsert that returned the id. -/
theorem deliver_recorded {rest : List Ev} {parts : DedupKeyParts} {externalId : String}
    (h : Settles (deliver d) (tr ++ rest) res)
    (hmem : answered (.recordSuccess parts targetId externalId) (.ok row) ∈ tr) :
    parts = d.parts ∧ ∃ payload u, u.internalId = targetId ∧
      upserted d payload (.ok u) ∈ tr := by
  have hexit := deliver_exit h
  have hmain := mem_main rfl rfl hmem
  have hall : answered (.recordSuccess parts targetId externalId) (.ok row) ∈ main (tr ++ rest) := by
    rw [main_append]
    exact List.mem_append_left _ hmain
  cases hexit.main_calls _ hall with
  | side hside => cases hside
  | success u =>
    obtain ⟨pre, payload, u', post, heq, hu, hpre⟩ := hexit.recordedWrite hall
    rw [main_append] at heq
    refine ⟨rfl, payload, u', hu, mem_of_mem_main ?_⟩
    obtain ⟨more, hmore⟩ | ⟨l', hl', _⟩ := prefix_or_mem heq
    · have hnone := hpre (succeeded d u (.ok row)) (hmore ▸ List.mem_append_left _ hmain)
      cases hnone
    · rw [hl']
      simp

/-! ## Threads that record imports -/

/-- Polls and replays record no import. -/
theorem PollRun.no_records {deps : CatchupDeps} {connectionId : String}
    {out : Except Thrown ConnectionCatchupOutcome} (h : PollRun deps connectionId tr out) :
    Only (fun ev => recordedBy ev = none) tr := by
  have hpoll {t : List Ev} (h : Only PollCall t) : Only (fun ev => recordedBy ev = none) t :=
    h.mono fun ev hev => by cases hev <;> rfl
  cases h with
  | idle hidle => exact hpoll hidle
  | @listed _ t _ _ _ _ _ _ _ _ hpre hsettles hpost =>
    have hpage : Only (fun ev => recordedBy ev = none) t :=
      Only.mono (enqueueMissing_calls _ _ _ _ _ _ hsettles) fun ev hev => by cases hev <;> rfl
    exact (hpoll hpre).append (.cons rfl (hpage.append (hpoll hpost)))

theorem ReplayRun.no_records {req : ReplayRequest} (h : ReplayRun req tr) :
    Only (fun ev => recordedBy ev = none) tr := by
  have hcalls {t : List Ev} (h : Only (ReplayCall req) t) :
      Only (fun ev => recordedBy ev = none) t := h.mono fun ev hev => by cases hev <;> rfl
  cases h with
  | kept h => exact hcalls h
  | dropped _ h => exact .cons rfl (.cons rfl (.cons rfl (hcalls h)))

/-- A thread that recorded an import handled a message of that key, and its order upsert
returned the id. -/
theorem Thread.recorded {thread : Thread} {parts : DedupKeyParts} {externalId : String}
    (h : Partial thread.program.run tr)
    (hmem : answered (.recordSuccess parts targetId externalId) (.ok row) ∈ tr) :
    ∃ d payload u, connectionFound d.deps d.msg.connectionId (.ok (some d.connection)) ∈ tr ∧
      parts = d.parts ∧ u.internalId = targetId ∧ upserted d payload (.ok u) ∈ tr := by
  have hquiet {rest : List Ev} (hall : Only (fun ev => recordedBy ev = none) (tr ++ rest)) :
      False := by
    have hnone := hall _ (List.mem_append_left rest hmem)
    cases hnone
  cases thread with
  | deletes parts =>
    obtain rfl | ⟨r, rfl⟩ := Thread.deletes_calls h
    · cases hmem
    · cases List.mem_singleton.mp hmem
  | runs a =>
    obtain ⟨rest, res, hsettles⟩ := Thread.runs_settles h
    cases a with
    | poll deps config connectionId => exact (hquiet (pollOneConnection_runs hsettles).no_records).elim
    | replay req => exact (hquiet (requestReplay_runs hsettles).no_records).elim
    | handle deps message attemptCtx =>
      have hrun := handlerRun_of_settles hsettles
      generalize hall : tr ++ rest = all at hrun
      have hmemAll : answered (.recordSuccess parts targetId externalId) (.ok row) ∈ all :=
        hall ▸ List.mem_append_left _ hmem
      cases hrun with
      | rejected ht =>
        obtain rfl | ⟨id, r, rfl, _⟩ := ht
        · cases hmemAll
        · cases List.mem_singleton.mp hmemAll
      | failed id e => cases List.mem_singleton.mp hmemAll
      | @delivered msg connection t _ _ _ _ hdeliver =>
        obtain ⟨rfl, _⟩ | ⟨tr', rfl, rfl⟩ := List.append_eq_cons_iff.mp hall
        · cases hmem
        obtain heq | hmem := List.mem_cons.mp hmem
        · cases heq
        obtain ⟨hparts, payload, u, hu, hupsert⟩ := deliver_recorded hdeliver hmem
        exact ⟨⟨deps, connection, msg, attemptCtx⟩, payload, u, List.mem_cons_self .., hparts, hu,
          List.mem_cons_of_mem _ hupsert⟩

/-! ## Runs -/

section Runs

variable {ι : Type} {threads : ι → Thread} {log : List (ι × Ev)}

/-- The order of `key` was written by the order upsert `args`, and the import recorded. -/
def WrittenUnder (log : List (ι × Ev)) (key : String) (args : UpsertArgs) : Prop :=
  ∃ i parts u externalId row, args.recordType.isOrder = true ∧
    (i, answered (.upsertByExternalId args) (.ok u)) ∈ log ∧
    (i, answered (.recordSuccess parts u.internalId externalId) (.ok row)) ∈ log ∧
    dedupKey parts = .ok key

variable [DecidableEq ι]

/-- What wrote the order of a key was an upsert for the connection of the key. -/
theorem WrittenUnder.args_eq (h : World.Interleaves threads w log w') {parts : DedupKeyParts}
    (hkey : dedupKey parts = .ok key) {connection : Connection}
    (hfound : w.findById parts.environment parts.connectionId = some connection)
    {args : UpsertArgs} (hwritten : WrittenUnder log key args) :
    args.nsAccountId = connection.nsAccountId ∧
      args.recordType = netsuiteOrderRecordType connection ∧ args.externalId = parts.sourceId := by
  obtain ⟨i, parts', u, externalId, row, horder, hupsert, hrecord, hkey'⟩ := hwritten
  obtain ⟨d, payload, u', hconnection, hparts, _, hupsert'⟩ :=
    Thread.recorded (h.local_ i) (mem_callsOf hrecord)
  have hsame : d.parts = parts := by
    rw [← hparts]
    exact dedupKey_inj hkey' hkey
  have hmem : connectionFound d.deps d.msg.connectionId (.ok (some d.connection)) ∈
      log.map Prod.snd := List.mem_map.mpr ⟨_, mem_of_mem_callsOf hconnection, rfl⟩
  have hd := World.Steps.found h.steps hmem
  have hconnectionId := (findById_connectionId hd.symm).2
  have hequal : d.connection = connection := by
    rw [← hsame] at hfound
    change w.findById d.deps.environment d.connection.connectionId = _ at hfound
    rw [hconnectionId, ← hd] at hfound
    exact Option.some.inj hfound
  have hargs : args = d.orderUpsert payload := by
    obtain hnone | ⟨_, _, ev, _, _, _, hsingle, _⟩ := Thread.writes_once (h.local_ i)
    · have hev : answered (.upsertByExternalId args) (.ok u) ∈ orderUpserts (callsOf i log) :=
        List.mem_filter.mpr ⟨mem_callsOf hupsert, horder⟩
      rw [hnone] at hev
      cases hev
    · have hev : answered (.upsertByExternalId args) (.ok u) ∈ orderUpserts (callsOf i log) :=
        List.mem_filter.mpr ⟨mem_callsOf hupsert, horder⟩
      have hev' : upserted d payload (.ok u') ∈ orderUpserts (callsOf i log) :=
        List.mem_filter.mpr ⟨hupsert', by simp [isOrderUpsert, Delivery.orderUpsert]⟩
      rw [hsingle, List.mem_singleton] at hev hev'
      cases hev.trans hev'.symm
      rfl
  rw [hargs, ← hequal, ← hsame]
  exact ⟨rfl, rfl, rfl⟩

/-- A key that a run leaves synced, from no row, was written by an order upsert. -/
theorem exists_writtenUnder (h : World.Interleaves threads w log w') (habsent : w.xref key = none)
    (hsynced : w'.status key = some .synced) : ∃ args, WrittenUnder log key args := by
  have hstatus : ¬w.status key = some .synced := by simp [World.status, habsent]
  obtain ⟨before, ev, after, heq, ⟨parts, targetId, externalId, row, rfl, hkey⟩, _⟩ :=
    ((World.Steps.synced_iff h.steps).mp hsynced).resolve_right (fun h => hstatus h.1)
  have hmem : answered (.recordSuccess parts targetId externalId) (.ok row) ∈
      log.map Prod.snd := by
    rw [heq]
    simp
  obtain ⟨⟨i, ev⟩, hrecord, hev⟩ := List.mem_map.mp hmem
  obtain rfl : ev = answered (.recordSuccess parts targetId externalId) (.ok row) := hev
  obtain ⟨d, payload, u, _, _, rfl, hupsert⟩ :=
    Thread.recorded (h.local_ i) (mem_callsOf hrecord)
  exact ⟨d.orderUpsert payload, i, parts, u, externalId, row, by simp [Delivery.orderUpsert],
    mem_of_mem_callsOf hupsert, hrecord, hkey⟩

end Runs

/-! ## Two stores on one account -/

namespace Shop

/-- A second store that books into the same account. -/
def twoStores : World :=
  { world with connections :=
      [connection, { connection with connectionId := "conn-b", shopifyStore := "b.myshopify.com" }] }

/-- The creation of an order of the second store. -/
def secondCreation (orderGid : String) : Activity :=
  .handle deps
    ({ message none "orders/create" with connectionId := "conn-b", orderGid } : OrderWebhookMessage).toJs
    none

/-- The creations of an order of each store. -/
def bothCreated (orderGid : String) : Fin 2 → Thread
  | 0 => .runs creation
  | 1 => .runs (secondCreation orderGid)

/-- One creation after the other. -/
def inTurn : List (Fin 2) :=
  List.replicate 20 ⟨0, Nat.two_pos⟩ ++ List.replicate 20 ⟨1, Nat.one_lt_two⟩

/-- The order of the second store. -/
def secondParts (orderGid : String) : DedupKeyParts := orderParts .dev "conn-b" orderGid

/-- The first store has the order of the shop. -/
def firstParts : DedupKeyParts := orderParts .dev "conn-a" order.id

/-- The dedup key of the order of the second store with the same id. -/
def sameIdKey : String := "dev|conn-b|order|shopify|gid://shopify/Order/1"

/-- The dedup key of the order of the second store with the next id. -/
def nextIdKey : String := "dev|conn-b|order|shopify|gid://shopify/Order/2"

theorem keys_made : ∀ made ∈ [(firstParts, Shop.key),
      (secondParts "gid://shopify/Order/1", sameIdKey),
      (secondParts "gid://shopify/Order/2", nextIdKey)],
    (∀ v ∈ made.1.values, v ≠ "" ∧ Js.includes v "|" = false) ∧
      made.2 = String.intercalate "|" made.1.values := by decide +kernel

theorem dedupKey_firstParts : dedupKey firstParts = .ok Shop.key :=
  dedupKeyWith_eq_ok.mpr (keys_made (firstParts, Shop.key) (by simp))

theorem dedupKey_sameId : dedupKey (secondParts "gid://shopify/Order/1") = .ok sameIdKey :=
  dedupKeyWith_eq_ok.mpr (keys_made (secondParts "gid://shopify/Order/1", sameIdKey) (by simp))

theorem dedupKey_nextId : dedupKey (secondParts "gid://shopify/Order/2") = .ok nextIdKey :=
  dedupKeyWith_eq_ok.mpr (keys_made (secondParts "gid://shopify/Order/2", nextIdKey) (by simp))

end Shop

end DpIntegrator
