import DpIntegrator.Core.OrderSyncLog
import DpIntegrator.Postgres.OrderSyncLogStore
import Mathlib.Data.List.Induction
import Mathlib.Data.List.Sort

/-!
# The attempt timeline of an order

Both stores append one row for each attempt and list the rows of an order by delivery count, the
highest first. Delivery counts start again with every message, so that a listing shows the most
recent attempt first only where the counts of the order rise from row to row.
-/

namespace DpIntegrator

/-! ## Sorting by a key -/

section Sorting

variable {α : Type} {l : List α} {count : α → ℕ} {time : α → ℤ}

/-- Where the keys rise, a list that is sorted by falling keys is the list backwards. -/
theorem eq_reverse_of_ascending {rows : List α} (h : l.Pairwise fun a b => count a < count b)
    (hperm : rows.Perm l) (hsorted : rows.Pairwise fun a b => count b ≤ count a) :
    rows = l.reverse := by
  have hreverse : l.reverse.Pairwise fun a b => count b ≤ count a :=
    List.pairwise_reverse.mpr (h.imp fun hlt => Nat.le_of_lt hlt)
  refine List.Perm.eq_of_pairwise ?_ hsorted hreverse (hperm.trans (List.reverse_perm l).symm)
  intro a b ha hb hab hba
  have hmem : b ∈ l := List.mem_reverse.mp hb
  have hinj : (l.map count).Nodup := List.pairwise_map.mpr (h.imp fun hlt => Nat.ne_of_lt hlt)
  exact List.inj_on_of_nodup_map hinj (hperm.mem_iff.mp ha) hmem (by omega)

/-- A stable sort by falling keys turns a list around if and only if the keys rise: it leaves two
elements of equal keys in their order. -/
theorem mergeSort_eq_reverse_iff (htime : l.Pairwise fun a b => time a < time b) :
    l.mergeSort (fun a b => count b ≤ count a) = l.reverse ↔
      l.Pairwise fun a b => count a < count b := by
  have htrans (a b c : α) (hab : decide (count b ≤ count a) = true)
      (hbc : decide (count c ≤ count b) = true) : decide (count c ≤ count a) = true := by
    have hle := of_decide_eq_true hab
    have hle' := of_decide_eq_true hbc
    exact decide_eq_true (by omega)
  have htotal (a b : α) : (decide (count b ≤ count a) || decide (count a ≤ count b)) = true := by
    rw [Bool.or_eq_true, decide_eq_true_eq, decide_eq_true_eq]
    omega
  constructor
  · intro h
    refine List.pairwise_iff_forall_sublist.mpr fun {a b} hsub => ?_
    by_contra hnot
    have hkept := List.pair_sublist_mergeSort htrans htotal
      (decide_eq_true (by omega : count b ≤ count a)) hsub
    rw [h] at hkept
    have hturned : List.Sublist [b, a] l := List.reverse_sublist.mp hkept
    have hlt := List.pairwise_iff_forall_sublist.mp htime hsub
    have hlt' := List.pairwise_iff_forall_sublist.mp htime hturned
    omega
  · intro h
    have hsorted := List.pairwise_mergeSort htrans htotal l
    exact eq_reverse_of_ascending h (List.mergeSort_perm ..) (hsorted.imp of_decide_eq_true)

end Sorting

/-! ## The stores -/

structure InMemoryOrderAttemptStore where
  rows : List OrderAttempt

namespace InMemoryOrderAttemptStore

def record (store : InMemoryOrderAttemptStore) (input : OrderAttemptInput) (now : ℤ) :
    InMemoryOrderAttemptStore where
  rows := recordAttemptRow store.rows input now

/-- The rows of an order, oldest first. -/
def ofOrder (store : InMemoryOrderAttemptStore) (key : OrderKey) : List OrderAttempt :=
  store.rows.filter fun row => row.orderKey = key

def listByOrderGid (store : InMemoryOrderAttemptStore) (key : OrderKey) : List OrderAttempt :=
  (store.ofOrder key).mergeSort fun a b => b.deliveryCount ≤ a.deliveryCount

end InMemoryOrderAttemptStore

structure OrderAttemptDb where
  id : ℕ
  environment : Environment
  connectionId : String
  shopifyOrderGid : String
  deliveryCount : ℕ
  sbMessageId : Option String
  sbSessionId : Option String
  outcome : OrderAttemptOutcome
  stage : Option String
  errorClass : Option String
  detail : Option String
  inboundEnvelopeUri : Option String
  outboundPayloadUri : Option String
  nsResponseUri : Option String
  nsResponseStatus : Option ℕ
  shopifyPayloadUri : Option String
  payloadDigest : Option Js.Fields
  startedAt : ℤ
  finishedAt : ℤ
  durationMs : ℤ
  createdAt : ℤ

/-- `toRow`: columns that are null become absent. -/
def OrderAttemptDb.toRow (row : OrderAttemptDb) : OrderAttempt where
  id := toString row.id
  environment := row.environment
  connectionId := row.connectionId
  shopifyOrderGid := row.shopifyOrderGid
  deliveryCount := row.deliveryCount
  sbMessageId := row.sbMessageId
  sbSessionId := row.sbSessionId
  outcome := row.outcome
  stage := row.stage
  errorClass := row.errorClass
  detail := row.detail
  inboundEnvelopeUri := row.inboundEnvelopeUri
  outboundPayloadUri := row.outboundPayloadUri
  nsResponseUri := row.nsResponseUri
  nsResponseStatus := row.nsResponseStatus
  shopifyPayloadUri := row.shopifyPayloadUri
  payloadDigest := row.payloadDigest
  startedAt := row.startedAt
  finishedAt := row.finishedAt
  durationMs := row.durationMs
  createdAt := row.createdAt

/-- The table `order_attempt`, in the order in which its rows were inserted. -/
abbrev AttemptTable := List OrderAttemptDb

namespace PostgresOrderAttemptStore

/-- The row that `record` inserts; `jsonb` is what a `JSONB` column gives back. -/
def insertedRow (jsonb : Js.Fields → Js.Fields) (input : OrderAttemptInput) (m : Moment) :
    OrderAttemptDb where
  id := m.serial
  environment := input.environment
  connectionId := input.connectionId
  shopifyOrderGid := input.shopifyOrderGid
  deliveryCount := input.deliveryCount
  sbMessageId := input.sbMessageId
  sbSessionId := input.sbSessionId
  outcome := input.outcome
  stage := input.stage
  errorClass := input.errorClass
  detail := input.detail
  inboundEnvelopeUri := input.inboundEnvelopeUri
  outboundPayloadUri := input.outboundPayloadUri
  nsResponseUri := input.nsResponseUri
  nsResponseStatus := input.nsResponseStatus
  shopifyPayloadUri := input.shopifyPayloadUri
  payloadDigest := input.payloadDigest.map jsonb
  startedAt := input.startedAt
  finishedAt := input.finishedAt
  durationMs := input.durationMs
  createdAt := m.now

def record (jsonb : Js.Fields → Js.Fields) (table : AttemptTable) (input : OrderAttemptInput)
    (m : Moment) : AttemptTable :=
  table ++ [insertedRow jsonb input m]

/-- The rows of an order, oldest first. -/
def ofOrder (table : AttemptTable) (key : OrderKey) : List OrderAttempt :=
  (table.map OrderAttemptDb.toRow).filter fun row => row.orderKey = key

/-- The rows that `listByOrderGid` may return: `ORDER BY delivery_count DESC, finished_at DESC`. -/
def Lists (table : AttemptTable) (key : OrderKey) (rows : List OrderAttempt) : Prop :=
  rows.Perm (ofOrder table key) ∧ rows.Pairwise fun a b => b.deliveryCount < a.deliveryCount ∨
    b.deliveryCount = a.deliveryCount ∧ b.finishedAt ≤ a.finishedAt

end PostgresOrderAttemptStore

/-! ## Attempts as they are recorded -/

/-- Attempts that were recorded one after another, in both stores. -/
inductive AttemptsKept (jsonb : Js.Fields → Js.Fields) :
    List OrderAttemptInput → InMemoryOrderAttemptStore → AttemptTable → Prop
  | start : AttemptsKept jsonb [] ⟨[]⟩ []
  | record {inputs : List OrderAttemptInput} {memory : InMemoryOrderAttemptStore}
      {table : AttemptTable} (h : AttemptsKept jsonb inputs memory table) (input : OrderAttemptInput)
      (now : ℤ) (m : Moment) : AttemptsKept jsonb (inputs ++ [input]) (memory.record input now)
        (PostgresOrderAttemptStore.record jsonb table input m)

/-- The attempts on an order, in the order in which they were recorded. -/
def attemptsOn (inputs : List OrderAttemptInput) (key : OrderKey) : List OrderAttemptInput :=
  inputs.filter fun input => input.orderKey = key

/-- `rows` are all of the rows in `all`, the most recent first. -/
structure IsTimeline (all rows : List OrderAttempt) : Prop where
  perm : rows.Perm all
  recentFirst : rows.Pairwise fun a b => b.finishedAt < a.finishedAt

section

variable {jsonb : Js.Fields → Js.Fields} {inputs : List OrderAttemptInput}
  {memory : InMemoryOrderAttemptStore} {table : AttemptTable} {key : OrderKey}
  {all rows : List OrderAttempt}

/-- When an attempt finished, and its delivery count. -/
def OrderAttemptInput.mark (input : OrderAttemptInput) : OrderKey × ℕ × ℤ :=
  (input.orderKey, input.deliveryCount, input.finishedAt)

/-- Both stores keep what was recorded about the order, the delivery and the time. -/
theorem AttemptsKept.marks_eq (h : AttemptsKept jsonb inputs memory table) :
    memory.rows.map (fun row => row.mark) = inputs.map OrderAttemptInput.mark ∧
      (table.map OrderAttemptDb.toRow).map (fun row => row.mark) =
        inputs.map OrderAttemptInput.mark := by
  induction h with
  | start => exact ⟨rfl, rfl⟩
  | record h input now m ih =>
    obtain ⟨hmemory, htable⟩ := ih
    unfold InMemoryOrderAttemptStore.record recordAttemptRow PostgresOrderAttemptStore.record
    simp only [List.map_append, hmemory, htable]
    exact ⟨rfl, rfl⟩

/-- Rows with the marks of what was recorded are ordered as it was. -/
theorem pairwise_attemptsOn_iff (key : OrderKey) (R : OrderKey × ℕ × ℤ → OrderKey × ℕ × ℤ → Prop)
    (h : rows.map (fun row => row.mark) = inputs.map OrderAttemptInput.mark) :
    (rows.filter fun row => row.orderKey = key).Pairwise (fun a b => R a.mark b.mark) ↔
      (attemptsOn inputs key).Pairwise fun a b => R a.mark b.mark := by
  have hkept := congrArg (List.filter fun mark => mark.1 = key) h
  rw [List.filter_map, List.filter_map] at hkept
  have hpairs := congrArg (List.Pairwise R) hkept
  rw [List.pairwise_map, List.pairwise_map] at hpairs
  exact iff_of_eq hpairs

/-- With rising finish times, a timeline is the list of the rows backwards. -/
theorem isTimeline_iff (htime : all.Pairwise fun a b => a.finishedAt < b.finishedAt) :
    IsTimeline all rows ↔ rows = all.reverse := by
  constructor
  · rintro ⟨hperm, hrecent⟩
    have hreverse : all.reverse.Pairwise fun a b => b.finishedAt < a.finishedAt :=
      List.pairwise_reverse.mpr htime
    refine List.Perm.eq_of_pairwise ?_ hrecent hreverse (hperm.trans (List.reverse_perm all).symm)
    intro a b _ _ hab hba
    omega
  · rintro rfl
    exact ⟨List.reverse_perm all, List.pairwise_reverse.mpr htime⟩

/-- In memory. -/
theorem memory_isTimeline_iff (h : AttemptsKept jsonb inputs memory table)
    (htime : (attemptsOn inputs key).Pairwise fun a b => a.finishedAt < b.finishedAt) :
    IsTimeline (memory.ofOrder key) (memory.listByOrderGid key) ↔
      (attemptsOn inputs key).Pairwise fun a b => a.deliveryCount < b.deliveryCount := by
  obtain ⟨hmarks, _⟩ := h.marks_eq
  have hrise : (memory.ofOrder key).Pairwise fun a b => a.finishedAt < b.finishedAt :=
    (pairwise_attemptsOn_iff key (fun a b => a.2.2 < b.2.2) hmarks).mpr htime
  rw [isTimeline_iff hrise]
  exact (mergeSort_eq_reverse_iff hrise).trans
    (pairwise_attemptsOn_iff key (fun a b => a.2.1 < b.2.1) hmarks)

/-- In Postgres, where the counts rise. -/
theorem postgres_isTimeline (h : AttemptsKept jsonb inputs memory table)
    (htime : (attemptsOn inputs key).Pairwise fun a b => a.finishedAt < b.finishedAt)
    (hcount : (attemptsOn inputs key).Pairwise fun a b => a.deliveryCount < b.deliveryCount)
    (hrows : PostgresOrderAttemptStore.Lists table key rows) :
    IsTimeline (PostgresOrderAttemptStore.ofOrder table key) rows := by
  obtain ⟨_, hmarks⟩ := h.marks_eq
  have hrise : (PostgresOrderAttemptStore.ofOrder table key).Pairwise
      fun a b => a.finishedAt < b.finishedAt :=
    (pairwise_attemptsOn_iff key (fun a b => a.2.2 < b.2.2) hmarks).mpr htime
  have hcounts : (PostgresOrderAttemptStore.ofOrder table key).Pairwise
      fun a b => a.deliveryCount < b.deliveryCount :=
    (pairwise_attemptsOn_iff key (fun a b => a.2.1 < b.2.1) hmarks).mpr hcount
  obtain ⟨hperm, hsorted⟩ := hrows
  rw [isTimeline_iff hrise]
  refine eq_reverse_of_ascending hcounts hperm (hsorted.imp fun hle => ?_)
  omega

/-- Both stores list the attempts on an order with the most recent one first if and only if each was
recorded with a higher delivery count than those before it. -/
theorem timeline_recentFirst_iff (h : AttemptsKept jsonb inputs memory table)
    (htime : (attemptsOn inputs key).Pairwise fun a b => a.finishedAt < b.finishedAt) :
    (IsTimeline (memory.ofOrder key) (memory.listByOrderGid key) ∧
      ∀ rows, PostgresOrderAttemptStore.Lists table key rows →
        IsTimeline (PostgresOrderAttemptStore.ofOrder table key) rows) ↔
      (attemptsOn inputs key).Pairwise fun a b => a.deliveryCount < b.deliveryCount := by
  rw [memory_isTimeline_iff h htime]
  constructor
  · rintro ⟨hcount, _⟩
    exact hcount
  · intro hcount
    exact ⟨hcount, fun rows hrows => postgres_isTimeline h htime hcount hrows⟩

end

/-- Deliveries of messages, each of which counts up from 1. -/
structure AttemptsInterleave {μ : Type} [DecidableEq μ] (message : OrderAttemptInput → μ)
    (attempts : List OrderAttemptInput) : Prop where
  starts : ∀ a ∈ attempts, ∃ b ∈ attempts, message b = message a ∧ b.deliveryCount = 1
  countsUp : ∀ m, (attempts.filter fun a => message a = m).Pairwise
    fun a b => a.deliveryCount < b.deliveryCount

/-- The counts of interleaved messages rise together if and only if there is one message. -/
theorem AttemptsInterleave.counts_rise_iff {μ : Type} [DecidableEq μ] {message : OrderAttemptInput → μ}
    {attempts : List OrderAttemptInput} (h : AttemptsInterleave message attempts) :
    (attempts.Pairwise fun a b => a.deliveryCount < b.deliveryCount) ↔
      ∀ a ∈ attempts, ∀ b ∈ attempts, message a = message b := by
  constructor
  · intro hrise a ha b hb
    obtain ⟨first, hfirst, hsame, hone⟩ := h.starts a ha
    obtain ⟨first', hfirst', hsame', hone'⟩ := h.starts b hb
    have hdistinct : (attempts.map fun a => a.deliveryCount).Nodup :=
      List.pairwise_map.mpr (hrise.imp fun hlt => Nat.ne_of_lt hlt)
    have heq := List.inj_on_of_nodup_map hdistinct hfirst hfirst' (by omega)
    rw [← hsame, ← hsame', heq]
  · intro hone
    cases attempts with
    | nil => exact List.Pairwise.nil
    | cons a rest =>
      have hall : (a :: rest).filter (fun b => message b = message a) = a :: rest := by
        apply List.filter_eq_self.mpr
        intro b hb
        exact decide_eq_true (hone b hb a List.mem_cons_self)
      rw [← hall]
      exact h.countsUp (message a)

/-! ## An order that is delivered twice and replayed -/

namespace Replayed

def key : OrderKey := ⟨.prod, "acme-us", "gid://shopify/Order/100"⟩

/-- An attempt on the order. -/
def attempt (sbMessageId : String) (deliveryCount : ℕ) (outcome : OrderAttemptOutcome)
    (finishedAt : ℤ) : OrderAttemptInput where
  environment := .prod
  connectionId := "acme-us"
  shopifyOrderGid := "gid://shopify/Order/100"
  deliveryCount
  sbMessageId := some sbMessageId
  sbSessionId := some "gid://shopify/Order/100"
  outcome
  stage := none
  errorClass := none
  detail := none
  inboundEnvelopeUri := none
  outboundPayloadUri := none
  nsResponseUri := none
  nsResponseStatus := none
  shopifyPayloadUri := none
  payloadDigest := none
  startedAt := finishedAt - 10
  finishedAt
  durationMs := 10

/-- The webhook message is delivered twice. -/
def webhook : List OrderAttemptInput :=
  [attempt "webhook" 1 .transientThrow 1000, attempt "webhook" 2 .parked 2000]

/-- Then the order is replayed. -/
def replayed : List OrderAttemptInput := webhook ++ [attempt "replay" 1 .imported 3000]

theorem exists_recorded (inputs : List OrderAttemptInput) :
    ∃ memory table, AttemptsKept id inputs memory table := by
  induction inputs using List.reverseRecOn with
  | nil => exact ⟨_, _, .start⟩
  | append_singleton inputs input ih =>
    obtain ⟨memory, table, h⟩ := ih
    exact ⟨_, _, h.record input 0 ⟨0, 0⟩⟩

theorem interleaves_replayed :
    AttemptsInterleave (fun a => a.sbMessageId) (attemptsOn replayed key) where
  starts := by decide
  countsUp m := by
    by_cases hwebhook : some "webhook" = m
    · subst hwebhook
      decide
    · by_cases hreplay : some "replay" = m
      · subst hreplay
        decide
      · have hnone : (attemptsOn replayed key).filter (fun a => a.sbMessageId = m) = [] := by
          apply List.filter_eq_nil_iff.mpr
          simp [attemptsOn, replayed, webhook, attempt, key, OrderAttemptInput.orderKey, hwebhook,
            hreplay]
        rw [hnone]
        exact List.Pairwise.nil

end Replayed

/-- The deliveries of one message are listed with the most recent one first. -/
theorem timeline_recentFirst_iff_webhook : ∃ memory table, AttemptsKept id Replayed.webhook memory table ∧
    IsTimeline (memory.ofOrder Replayed.key) (memory.listByOrderGid Replayed.key) := by
  obtain ⟨memory, table, h⟩ := Replayed.exists_recorded Replayed.webhook
  have htime : (attemptsOn Replayed.webhook Replayed.key).Pairwise
      fun a b => a.finishedAt < b.finishedAt := by decide
  have hcount : (attemptsOn Replayed.webhook Replayed.key).Pairwise
      fun a b => a.deliveryCount < b.deliveryCount := by decide
  exact ⟨memory, table, h, ((timeline_recentFirst_iff h htime).mpr hcount).1⟩

/-- A replay that is imported is not listed before the second delivery of the webhook message. -/
theorem timeline_not_recentFirst :
    ¬∀ (jsonb : Js.Fields → Js.Fields) (inputs : List OrderAttemptInput)
      (memory : InMemoryOrderAttemptStore) (table : AttemptTable) (key : OrderKey),
      AttemptsKept jsonb inputs memory table →
      AttemptsInterleave (fun a => a.sbMessageId) (attemptsOn inputs key) →
      ((attemptsOn inputs key).Pairwise fun a b => a.finishedAt < b.finishedAt) →
      IsTimeline (memory.ofOrder key) (memory.listByOrderGid key) ∧
        ∀ rows, PostgresOrderAttemptStore.Lists table key rows →
          IsTimeline (PostgresOrderAttemptStore.ofOrder table key) rows := by
  intro h
  obtain ⟨memory, table, hrecorded⟩ := Replayed.exists_recorded Replayed.replayed
  have htime : (attemptsOn Replayed.replayed Replayed.key).Pairwise
      fun a b => a.finishedAt < b.finishedAt := by decide
  obtain ⟨hlisted, _⟩ := h id _ memory table Replayed.key hrecorded Replayed.interleaves_replayed htime
  have hnot : ¬(attemptsOn Replayed.replayed Replayed.key).Pairwise
      fun a b => a.deliveryCount < b.deliveryCount := by decide
  exact hnot ((memory_isTimeline_iff hrecorded htime).mp hlisted)

end DpIntegrator
