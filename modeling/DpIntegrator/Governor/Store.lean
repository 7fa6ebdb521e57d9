import DpIntegrator.Js.Map
import Mathlib.Data.Finset.Card

/-!
# The governor store

The budget of each NetSuite account is a set of holders that is never larger than the
ceiling. The calls of the store are synchronous: each one is a single step.
-/

namespace DpIntegrator

/-- The holders of an account: `bucket`. -/
def bucketOf (slots : Js.Map String (Finset String)) (nsAccountId : String) : Finset String :=
  (slots.get nsAccountId).getD ∅

theorem bucketOf_set (slots : Js.Map String (Finset String)) (account : String)
    (holders : Finset String) :
    bucketOf (slots.set account holders) = Function.update (bucketOf slots) account holders := by
  funext account'
  unfold bucketOf
  by_cases haccount : account' = account
  · rw [haccount, Js.Map.get_set_self, Function.update_self, Option.getD_some]
  · rw [Js.Map.get_set_of_ne haccount, Function.update_of_ne haccount]

/-- `SharedInMemoryGovernorStore`, with the ceiling it was made with. -/
structure SharedInMemoryGovernorStore (ceiling : ℕ) where
  slots : Js.Map String (Finset String)
  positive : 1 ≤ ceiling
  within : ∀ nsAccountId, (bucketOf slots nsAccountId).card ≤ ceiling

namespace SharedInMemoryGovernorStore

variable {ceiling : ℕ}

/-- The constructor. -/
def new (ceiling : ℕ) : Except String (SharedInMemoryGovernorStore ceiling) :=
  if hpositive : 1 ≤ ceiling then
    .ok { slots := .empty, positive := hpositive, within := fun _ => Nat.zero_le _ }
  else .error ("Governor ceiling must be ≥ 1, got " ++ toString ceiling)

def bucket (store : SharedInMemoryGovernorStore ceiling) (nsAccountId : String) : Finset String :=
  bucketOf store.slots nsAccountId

theorem card_bucket_le (store : SharedInMemoryGovernorStore ceiling) (nsAccountId : String) :
    (store.bucket nsAccountId).card ≤ ceiling := store.within nsAccountId

/-- The store with the holders of one account replaced. -/
def setBucket (store : SharedInMemoryGovernorStore ceiling) (nsAccountId : String)
    (holders : Finset String) (hcard : holders.card ≤ ceiling) :
    SharedInMemoryGovernorStore ceiling where
  slots := store.slots.set nsAccountId holders
  positive := store.positive
  within account := by
    rw [bucketOf_set]
    by_cases haccount : account = nsAccountId
    · rw [haccount, Function.update_self]
      exact hcard
    · rw [Function.update_of_ne haccount]
      exact store.within account

@[simp] theorem bucket_setBucket (store : SharedInMemoryGovernorStore ceiling)
    (nsAccountId : String) (holders : Finset String) (hcard : holders.card ≤ ceiling) :
    (store.setBucket nsAccountId holders hcard).bucket =
      Function.update store.bucket nsAccountId holders :=
  bucketOf_set store.slots nsAccountId holders

/-- Take a slot of the account for the holder, unless the account is at its ceiling. -/
def tryAcquire (store : SharedInMemoryGovernorStore ceiling) (nsAccountId holderId : String) :
    Bool × SharedInMemoryGovernorStore ceiling :=
  if hfull : ceiling ≤ (store.bucket nsAccountId).card then (false, store)
  else
    (true, store.setBucket nsAccountId (insert holderId (store.bucket nsAccountId))
      ((Finset.card_insert_le ..).trans (by omega)))

/-- Give the holder's slot of the account back. -/
def release (store : SharedInMemoryGovernorStore ceiling) (nsAccountId holderId : String) :
    SharedInMemoryGovernorStore ceiling :=
  store.setBucket nsAccountId ((store.bucket nsAccountId).erase holderId)
    ((Finset.card_erase_le).trans (store.card_bucket_le nsAccountId))

/-- The number of slots of the account in use. -/
def inFlight (store : SharedInMemoryGovernorStore ceiling) (nsAccountId : String) : ℕ :=
  (store.bucket nsAccountId).card

theorem bucket_new {store : SharedInMemoryGovernorStore ceiling} (h : new ceiling = .ok store)
    (nsAccountId : String) : store.bucket nsAccountId = ∅ := by
  unfold new at h
  split at h
  · obtain rfl := Except.ok.inj h
    rfl
  · cases h

theorem bucket_tryAcquire (store : SharedInMemoryGovernorStore ceiling)
    (nsAccountId holderId : String) :
    (store.tryAcquire nsAccountId holderId).2.bucket =
      if (store.tryAcquire nsAccountId holderId).1 then
        Function.update store.bucket nsAccountId (insert holderId (store.bucket nsAccountId))
      else store.bucket := by
  unfold tryAcquire
  split
  · rfl
  · simp

theorem bucket_release (store : SharedInMemoryGovernorStore ceiling)
    (nsAccountId holderId : String) :
    (store.release nsAccountId holderId).bucket =
      Function.update store.bucket nsAccountId ((store.bucket nsAccountId).erase holderId) := by
  unfold release
  rw [bucket_setBucket]

end SharedInMemoryGovernorStore

end DpIntegrator
