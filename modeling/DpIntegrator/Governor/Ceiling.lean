import DpIntegrator.Governor.Requests
import DpIntegrator.Effects.Slots

/-!
# The account ceiling

Every turn of a request leaves the slots alone, takes one under the request's own id, or
gives that one back. Ids are never made twice, so the store's buckets are at every moment
the requests that have acquired and not released, and there are never more of those than
the ceiling.
-/

namespace DpIntegrator

open Effects

variable {ceiling : ℕ} {ρ ι : Type}

/-- The name under which a request takes its slot, and whether its release callback has
still to give the slot back. -/
structure Holder where
  nsAccountId : String
  holderId : String
  holds : Bool

def Release.holder (release : Release) : Holder where
  nsAccountId := release.nsAccountId
  holderId := release.holderId
  holds := !release.released

def Acquire.holder (locals : Acquire) (holds : Bool) : Holder where
  nsAccountId := locals.nsAccountId
  holderId := locals.holderId
  holds := holds

/-- The slot of a holder: an account and a name. -/
def Holder.slot? (holder : Holder) : Option (String × String) :=
  if holder.holds then some (holder.nsAccountId, holder.holderId) else none

namespace Request

def holder? : Request ρ → Option Holder
  | idle => none
  | acquiring locals got => some (locals.holder got)
  | sleeping locals => some (locals.holder false)
  | acquired release => some release.holder
  | executing release _ => some release.holder
  | releasing release _ => some release.holder
  | settled release _ => some release.holder
  | timedOut locals _ => some (locals.holder false)

/-- The id that was made for a request. -/
def holderId? (request : Request ρ) : Option String := request.holder?.map Holder.holderId

/-- The slot that a request's variables say it holds. -/
def slot? (request : Request ρ) : Option (String × String) := request.holder?.bind Holder.slot?

/-- The request has acquired a slot and not yet released it. -/
def HoldsSlot : Request ρ → Prop
  | acquiring _ got => got = true
  | acquired _ => True
  | executing .. => True
  | _ => False

/-- The wrapped request is under way. -/
def IsExecuting : Request ρ → Prop
  | executing .. => True
  | _ => False

/-- The wrapped request was called. -/
def Begun : Request ρ → Prop
  | executing .. => True
  | releasing .. => True
  | settled .. => True
  | _ => False

def IsTimedOut : Request ρ → Prop
  | timedOut .. => True
  | _ => False

/-- The request was made and has not settled. -/
def IsActive : Request ρ → Prop
  | idle => False
  | settled .. => False
  | timedOut .. => False
  | _ => True

instance : DecidablePred (@IsExecuting ρ)
  | executing .. => inferInstanceAs (Decidable True)
  | idle => inferInstanceAs (Decidable False)
  | acquiring .. => inferInstanceAs (Decidable False)
  | sleeping _ => inferInstanceAs (Decidable False)
  | acquired _ => inferInstanceAs (Decidable False)
  | releasing .. => inferInstanceAs (Decidable False)
  | settled .. => inferInstanceAs (Decidable False)
  | timedOut .. => inferInstanceAs (Decidable False)

instance : DecidablePred (@IsTimedOut ρ)
  | timedOut .. => inferInstanceAs (Decidable True)
  | idle => inferInstanceAs (Decidable False)
  | acquiring .. => inferInstanceAs (Decidable False)
  | sleeping _ => inferInstanceAs (Decidable False)
  | acquired _ => inferInstanceAs (Decidable False)
  | executing .. => inferInstanceAs (Decidable False)
  | releasing .. => inferInstanceAs (Decidable False)
  | settled .. => inferInstanceAs (Decidable False)

theorem IsExecuting.holdsSlot {request : Request ρ} (h : request.IsExecuting) :
    request.HoldsSlot := by
  cases request with
  | executing => trivial
  | _ => cases h

theorem IsExecuting.begun {request : Request ρ} (h : request.IsExecuting) : request.Begun := by
  cases request with
  | executing => trivial
  | _ => cases h

theorem IsTimedOut.not_begun {request : Request ρ} (h : request.IsTimedOut) : ¬request.Begun := by
  cases request with
  | timedOut => exact id
  | _ => cases h

theorem IsTimedOut.not_holdsSlot {request : Request ρ} (h : request.IsTimedOut) :
    ¬request.HoldsSlot := by
  cases request with
  | timedOut => exact id
  | _ => cases h

theorem HoldsSlot.isActive {request : Request ρ} (h : request.HoldsSlot) : request.IsActive := by
  cases request with
  | acquiring => trivial
  | acquired => trivial
  | executing => trivial
  | _ => cases h

theorem HoldsSlot.exists_holder {request : Request ρ} (h : request.HoldsSlot) :
    ∃ holder, request.holder? = some holder := by
  cases request with
  | idle => cases h
  | _ => exact ⟨_, rfl⟩

theorem slot?_eq_some {request : Request ρ} {account holderId : String} :
    request.slot? = some (account, holderId) ↔
      request.holder? = some { nsAccountId := account, holderId, holds := true } := by
  unfold slot?
  cases request.holder? with
  | none => simp
  | some holder =>
    obtain ⟨account', holderId', holds⟩ := holder
    cases holds <;> simp [Holder.slot?]

theorem holderId?_of_slot? {request : Request ρ} {account holderId : String}
    (h : request.slot? = some (account, holderId)) : request.holderId? = some holderId := by
  unfold holderId?
  rw [slot?_eq_some.mp h]
  rfl

/-- What holds of a request made with `args` at each await: its slot is one of its account,
and its release callback is spent when it has released. -/
def Shaped (args : GovernorArgs) (request : Request ρ) : Prop :=
  ∀ holder, request.holder? = some holder →
    holder.nsAccountId = args.nsAccountId ∧ (holder.holds = true ↔ request.HoldsSlot)

/-- A request holds a slot of its account, when it holds one. -/
theorem Shaped.holdsSlot_iff {args : GovernorArgs} {request : Request ρ}
    (h : request.Shaped args) (account : String) :
    (∃ holderId, request.slot? = some (account, holderId)) ↔
      args.nsAccountId = account ∧ request.HoldsSlot := by
  constructor
  · rintro ⟨holderId, hslot⟩
    obtain ⟨haccount, hholds⟩ := h _ (slot?_eq_some.mp hslot)
    exact ⟨haccount.symm, hholds.mp rfl⟩
  · rintro ⟨rfl, hslot⟩
    obtain ⟨holder, hholder⟩ := hslot.exists_holder
    obtain ⟨haccount, hholds⟩ := h holder hholder
    refine ⟨holder.holderId, slot?_eq_some.mpr ?_⟩
    rw [hholder, ← haccount, ← hholds.mpr hslot]

end Request

/-! ## What a turn does -/

/-- What a turn does to the slots and to the id of its request. -/
structure TurnSpec (args : GovernorArgs) (request : Request ρ) (shared : Shared ceiling)
    (request' : Request ρ) (shared' : Shared ceiling) : Prop where
  shaped : request'.Shaped args
  slots : SlotChange request.slot? shared.store.bucket request'.slot? shared'.store.bucket
  ids : (request'.holderId? = request.holderId? ∧ shared'.holderSeq = shared.holderSeq) ∨
    request.holderId? = none ∧ shared'.holderSeq = shared.holderSeq + 1 ∧
      ∃ now, request'.holderId? = some (newHolderId "ns" now shared.holderSeq).1

/-- An attempt takes a slot, or leaves the slots alone. -/
theorem attempt_spec (locals : Acquire) (shared : Shared ceiling) {request : Request ρ}
    {shared' : Shared ceiling} (h : locals.attempt shared = (request, shared')) :
    (∃ got, request = .acquiring locals got) ∧ shared'.holderSeq = shared.holderSeq ∧
      SlotChange none shared.store.bucket request.slot? shared'.store.bucket := by
  have hbucket := shared.store.bucket_tryAcquire locals.nsAccountId locals.holderId
  unfold Acquire.attempt at h
  generalize shared.store.tryAcquire locals.nsAccountId locals.holderId = answer at h hbucket
  obtain ⟨got, store⟩ := answer
  cases h
  refine ⟨⟨got, rfl⟩, rfl, ?_⟩
  cases got with
  | true =>
    change store.bucket = _ at hbucket
    change SlotChange none _ (some (locals.nsAccountId, locals.holderId)) store.bucket
    rw [hbucket]
    exact .take ..
  | false =>
    change store.bucket = _ at hbucket
    change SlotChange none _ none store.bucket
    rw [hbucket]
    exact .keep ..

/-- Calling `release` frees the slot, the first time only. -/
theorem call_spec (release : Release) (shared : Shared ceiling) :
    (release.call shared).1 = { release with released := true } ∧
      (release.call shared).2.holderSeq = shared.holderSeq ∧
      SlotChange release.holder.slot? shared.store.bucket none
        (release.call shared).2.store.bucket := by
  obtain ⟨account, holderId, released⟩ := release
  cases released with
  | true => exact ⟨rfl, rfl, .keep ..⟩
  | false =>
    refine ⟨rfl, rfl, ?_⟩
    change SlotChange (some (account, holderId)) _ none (shared.store.release account holderId).bucket
    rw [shared.store.bucket_release]
    exact .free ..

/-- A spent `release` changes nothing. -/
theorem call_of_released {release : Release} (h : release.released = true)
    (shared : Shared ceiling) : release.call shared = (release, shared) := by
  unfold Release.call
  rw [if_pos h]

/-- A turn in which a request calls its `release` leaves it without a slot. -/
theorem turnSpec_of_call {args : GovernorArgs} {request request' : Request ρ} {release : Release}
    (shared : Shared ceiling) (hshaped : request.Shaped args)
    (hrequest : request.holder? = some release.holder)
    (hrequest' : request'.holder? = some (release.call shared).1.holder)
    (hfreed : ¬request'.HoldsSlot) :
    TurnSpec args request shared request' (release.call shared).2 := by
  obtain ⟨hreleased, hseq, hslots⟩ := call_spec release shared
  rw [hreleased] at hrequest'
  refine ⟨?_, ?_, .inl ⟨?_, hseq⟩⟩
  · intro holder hholder
    obtain rfl := Option.some.inj (hrequest'.symm.trans hholder)
    exact ⟨(hshaped _ hrequest).1, by simp [Release.holder, hfreed]⟩
  · have hslot : request.slot? = release.holder.slot? := by
      unfold Request.slot?
      rw [hrequest, Option.bind_some]
    have hslot' : request'.slot? = none := by
      unfold Request.slot?
      rw [hrequest', Option.bind_some]
      rfl
    rw [hslot, hslot']
    exact hslots
  · unfold Request.holderId?
    rw [hrequest, hrequest']
    rfl

/-- Every turn of the middleware. -/
theorem governorMiddleware_spec {args : GovernorArgs} {turn : Turn ρ}
    {request request' : Request ρ} {shared shared' : Shared ceiling}
    (h : governorMiddleware args turn request shared = some (request', shared'))
    (hshaped : request.Shaped args) : TurnSpec args request shared request' shared' := by
  unfold governorMiddleware at h
  split at h
  · next now now' => -- made
    obtain ⟨⟨got, rfl⟩, hseq, hslots⟩ := attempt_spec _ _ (Option.some.inj h)
    refine ⟨?_, hslots, .inr ⟨rfl, hseq, now, rfl⟩⟩
    rintro _ ⟨⟩
    exact ⟨rfl, Iff.rfl⟩
  · next now locals got => -- answered
    cases h
    unfold Acquire.resume
    obtain ⟨haccount, _⟩ := hshaped _ rfl
    split
    · next hgot =>
      subst hgot
      refine ⟨?_, .keep .., .inl ⟨rfl, rfl⟩⟩
      rintro _ ⟨⟩
      exact ⟨haccount, by simp [Release.holder, Request.HoldsSlot]⟩
    · next hgot =>
      obtain rfl : got = false := by simpa using hgot
      split
      · refine ⟨?_, .keep .., .inl ⟨rfl, rfl⟩⟩
        rintro _ ⟨⟩
        exact ⟨haccount, by simp [Acquire.holder, Request.HoldsSlot]⟩
      · refine ⟨?_, .keep .., .inl ⟨rfl, rfl⟩⟩
        rintro _ ⟨⟩
        exact ⟨haccount, by simp [Acquire.holder, Request.HoldsSlot]⟩
  · next locals => -- woken
    obtain ⟨⟨got, rfl⟩, hseq, hslots⟩ := attempt_spec _ _ (Option.some.inj h)
    refine ⟨?_, hslots, .inl ⟨rfl, hseq⟩⟩
    rintro _ ⟨⟩
    exact ⟨(hshaped _ rfl).1, Iff.rfl⟩
  · next release => -- admitted
    cases h
    refine ⟨?_, .keep .., .inl ⟨rfl, rfl⟩⟩
    rintro _ ⟨⟩
    exact hshaped _ rfl
  · next result release metadata => -- returned
    cases h
    exact turnSpec_of_call shared hshaped rfl rfl id
  · next release result => -- freed
    cases h
    refine ⟨?_, .keep .., .inl ⟨rfl, rfl⟩⟩
    rintro _ ⟨⟩
    exact hshaped _ rfl
  · next release result => -- released again, while the first call is awaited
    cases h
    exact turnSpec_of_call shared hshaped rfl rfl id
  · next release result => -- released again, after the request has settled
    cases h
    exact turnSpec_of_call shared hshaped rfl rfl id
  · cases h

/-- A wrapped request that was called stays so. -/
theorem begun_of_governorMiddleware {args : GovernorArgs} {turn : Turn ρ}
    {request request' : Request ρ} {shared shared' : Shared ceiling} (hbegun : request.Begun)
    (h : governorMiddleware args turn request shared = some (request', shared')) :
    request'.Begun := by
  unfold governorMiddleware at h
  split at h
  all_goals first
    | exact False.elim hbegun
    | cases h <;> trivial

/-- Nothing lets a request run on that has timed out. -/
theorem governorMiddleware_timedOut (args : GovernorArgs) (turn : Turn ρ) (locals : Acquire)
    (message : String) (shared : Shared ceiling) :
    governorMiddleware args turn (.timedOut locals message) shared = none := by
  cases turn <;> rfl

/-- Calling `release` once more changes nothing. -/
theorem governorMiddleware_releasedAgain {args : GovernorArgs} {request request' : Request ρ}
    {shared shared' : Shared ceiling} (hshaped : request.Shaped args)
    (h : governorMiddleware args .releasedAgain request shared = some (request', shared')) :
    request' = request ∧ shared' = shared := by
  have hreleased {release : Release} (hholder : request.holder? = some release.holder)
      (hfreed : ¬request.HoldsSlot) : release.released = true := by
    have hholds := (hshaped _ hholder).2
    simpa [Release.holder, hfreed] using hholds
  cases request with
  | releasing release result =>
    have hcall := call_of_released (hreleased rfl id) shared
    simp only [governorMiddleware, hcall] at h
    cases h
    exact ⟨rfl, rfl⟩
  | settled release result =>
    have hcall := call_of_released (hreleased rfl id) shared
    simp only [governorMiddleware, hcall] at h
    cases h
    exact ⟨rfl, rfl⟩
  | _ => cases h

/-! ## Runs -/

namespace Process

variable {args : ι → GovernorArgs} {p q : Process ι ρ ceiling}

/-- The ids of the requests were made at different sequence numbers. -/
structure IdsDistinct (p : Process ι ρ ceiling) : Prop where
  made : ∀ i holderId, (p.requests i).holderId? = some holderId →
    ∃ now, ∃ seq < p.shared.holderSeq, holderId = (newHolderId "ns" now seq).1
  distinct : ∀ i j holderId, (p.requests i).holderId? = some holderId →
    (p.requests j).holderId? = some holderId → i = j

/-- What holds in every state of a process: requests are shaped as their await says, their ids
are distinct, and the buckets list the slots that are held. -/
structure Consistent (args : ι → GovernorArgs) (p : Process ι ρ ceiling) : Prop where
  shaped : ∀ i, (p.requests i).Shaped (args i)
  ids : p.IdsDistinct
  tracked : SlotsTracked (fun i => (p.requests i).slot?) p.shared.store.bucket

/-- A turn that makes an id, at the next sequence number, or keeps the ids leaves them
distinct. -/
theorem IdsDistinct.turn {i : ι} (h : p.IdsDistinct)
    (hother : ∀ j, j ≠ i → q.requests j = p.requests j)
    (hids : ((q.requests i).holderId? = (p.requests i).holderId? ∧
        q.shared.holderSeq = p.shared.holderSeq) ∨
      (p.requests i).holderId? = none ∧ q.shared.holderSeq = p.shared.holderSeq + 1 ∧
        ∃ now, (q.requests i).holderId? = some (newHolderId "ns" now p.shared.holderSeq).1) :
    q.IdsDistinct := by
  rcases hids with ⟨hid, hseq⟩ | ⟨_, hseq, now, hid⟩
  · have hsame (j : ι) : (q.requests j).holderId? = (p.requests j).holderId? := by
      by_cases hj : j = i
      · rw [hj, hid]
      · rw [hother j hj]
    refine ⟨?_, ?_⟩
    · intro j holderId hj
      rw [hsame] at hj
      rw [hseq]
      exact h.made j holderId hj
    · intro j k holderId hj hk
      rw [hsame] at hj hk
      exact h.distinct j k holderId hj hk
  · have hearlier {j : ι} {holderId : String} (hj : j ≠ i)
        (hholder : (q.requests j).holderId? = some holderId) :
        (p.requests j).holderId? = some holderId ∧
          ∃ now, ∃ seq < p.shared.holderSeq, holderId = (newHolderId "ns" now seq).1 := by
      rw [hother j hj] at hholder
      exact ⟨hholder, h.made j holderId hholder⟩
    have hnew {j : ι} {holderId : String} (hj : (q.requests j).holderId? = some holderId)
        (hi : (q.requests i).holderId? = some holderId) : j = i := by
      by_contra hne
      obtain ⟨_, now', seq, hlt, hmade⟩ := hearlier hne hj
      rw [hid] at hi
      have heq := newHolderId_inj ((Option.some.inj hi).trans hmade)
      omega
    refine ⟨?_, ?_⟩
    · intro j holderId hj
      by_cases hji : j = i
      · rw [hji, hid] at hj
        exact ⟨now, p.shared.holderSeq, by omega, (Option.some.inj hj).symm⟩
      · obtain ⟨_, now', seq, hlt, hmade⟩ := hearlier hji hj
        exact ⟨now', seq, by omega, hmade⟩
    · intro j k holderId hj hk
      by_cases hji : j = i
      · rw [hji] at hj ⊢
        exact (hnew hk hj).symm
      · by_cases hki : k = i
        · rw [hki] at hk ⊢
          exact hnew hj hk
        · exact h.distinct j k holderId (hearlier hji hj).1 (hearlier hki hk).1

theorem consistent_start {store : SharedInMemoryGovernorStore ceiling}
    (hnew : SharedInMemoryGovernorStore.new ceiling = .ok store) (holderSeq : ℕ) :
    Consistent args (start store holderSeq : Process ι ρ ceiling) where
  shaped i holder hholder := by cases hholder
  ids :=
    { made := fun i holderId hid => by cases hid
      distinct := fun i j holderId hid => by cases hid }
  tracked := by
    have hempty : store.bucket = fun _ => ∅ := funext (SharedInMemoryGovernorStore.bucket_new hnew)
    change SlotsTracked (fun _ : ι => none) store.bucket
    rw [hempty]
    exact slotsTracked_empty

/-- The store counts the requests that hold a slot. -/
theorem Consistent.encard_holdsSlot (h : p.Consistent args) (account : String) :
    {i | (args i).nsAccountId = account ∧ (p.requests i).HoldsSlot}.encard =
      (p.inFlight account : ℕ∞) := by
  have hset : {i | (args i).nsAccountId = account ∧ (p.requests i).HoldsSlot} =
      {i | ∃ holderId, (p.requests i).slot? = some (account, holderId)} := by
    ext i
    exact ((h.shaped i).holdsSlot_iff account).symm
  rw [hset]
  exact h.tracked.encard_holders account

/-- No account has more requests executing than the ceiling. -/
theorem Consistent.encard_executing_le (h : p.Consistent args) (account : String) :
    {i | (args i).nsAccountId = account ∧ (p.requests i).IsExecuting}.encard ≤ (ceiling : ℕ∞) := by
  have hsubset : {i | (args i).nsAccountId = account ∧ (p.requests i).IsExecuting} ⊆
      {i | (args i).nsAccountId = account ∧ (p.requests i).HoldsSlot} :=
    fun i hi => ⟨hi.1, hi.2.holdsSlot⟩
  have hcard := p.shared.store.card_bucket_le account
  calc {i | (args i).nsAccountId = account ∧ (p.requests i).IsExecuting}.encard
      ≤ {i | (args i).nsAccountId = account ∧ (p.requests i).HoldsSlot}.encard :=
        Set.encard_le_encard hsubset
    _ = (p.inFlight account : ℕ∞) := h.encard_holdsSlot account
    _ ≤ (ceiling : ℕ∞) := by exact_mod_cast hcard

/-- A request that holds no slot has none in the store under its id. -/
theorem Consistent.notMem_bucket {i : ι} (h : p.Consistent args)
    (hfree : ¬(p.requests i).HoldsSlot) {holderId : String}
    (hid : (p.requests i).holderId? = some holderId) (account : String) :
    holderId ∉ p.shared.store.bucket account := by
  intro hmem
  obtain ⟨j, hslot⟩ := (h.tracked.mem_iff account holderId).mp hmem
  obtain rfl := h.ids.distinct j i holderId (Request.holderId?_of_slot? hslot) hid
  exact hfree (((h.shaped j).holdsSlot_iff account).mp ⟨holderId, hslot⟩).2

variable [DecidableEq ι]

theorem step_eq_some {i : ι} {turn : Turn ρ} :
    p.step args i turn = some q ↔ ∃ request, governorMiddleware (args i) turn (p.requests i)
        p.shared = some (request, q.shared) ∧
      q.requests = Function.update p.requests i request := by
  unfold step
  rw [Option.map_eq_some_iff]
  constructor
  · rintro ⟨⟨request, shared⟩, hturn, rfl⟩
    exact ⟨request, hturn, rfl⟩
  · rintro ⟨request, hturn, hrequests⟩
    obtain ⟨shared, requests⟩ := q
    cases hrequests
    exact ⟨(request, shared), hturn, rfl⟩

/-- Every turn keeps a process consistent. -/
theorem Consistent.step {i : ι} {turn : Turn ρ} (h : p.Consistent args)
    (hstep : p.step args i turn = some q) : q.Consistent args := by
  obtain ⟨request, hturn, hrequests⟩ := step_eq_some.mp hstep
  obtain ⟨hshaped, hslots, hids⟩ := governorMiddleware_spec hturn (h.shaped i)
  have hself : q.requests i = request := by rw [hrequests, Function.update_self]
  have hother {j : ι} (hj : j ≠ i) : q.requests j = p.requests j := by
    rw [hrequests, Function.update_of_ne hj]
  obtain ⟨hmade, hdistinct⟩ : q.IdsDistinct := by
    refine h.ids.turn (fun j hj => hother hj) ?_
    rw [hself]
    exact hids
  refine ⟨?_, ⟨hmade, hdistinct⟩, ?_⟩
  · intro j
    by_cases hj : j = i
    · rw [hj, hself]
      exact hshaped
    · rw [hother hj]
      exact h.shaped j
  · have hfresh : ∀ account holderId, request.slot? = some (account, holderId) →
        ∀ j account', (p.requests j).slot? = some (account', holderId) → j = i := by
      intro account holderId hslot j account' hj
      by_contra hne
      refine hne (hdistinct j i holderId ?_ ?_)
      · rw [hother hne]
        exact Request.holderId?_of_slot? hj
      · rw [hself]
        exact Request.holderId?_of_slot? hslot
    have htracked := h.tracked.change hslots hfresh
    have hupdate : (fun j => (q.requests j).slot?) =
        Function.update (fun j => (p.requests j).slot?) i request.slot? := by
      funext j
      by_cases hj : j = i
      · rw [hj, hself, Function.update_self]
      · rw [hother hj, Function.update_of_ne hj]
    rw [hupdate]
    exact htracked

/-- Every run keeps a process consistent. -/
theorem Consistent.run {turns : List (ι × Turn ρ)} (h : p.Consistent args)
    (hrun : p.run args turns = some q) : q.Consistent args := by
  induction turns generalizing p with
  | nil =>
    obtain rfl := Option.some.inj hrun
    exact h
  | cons entry turns ih =>
    obtain ⟨p', hstep, hrest⟩ := Option.bind_eq_some_iff.mp hrun
    exact ih (h.step hstep) hrest

theorem run_append (args : ι → GovernorArgs) (turns turns' : List (ι × Turn ρ))
    (p : Process ι ρ ceiling) :
    p.run args (turns ++ turns') = (p.run args turns).bind (Process.run args turns') := by
  induction turns generalizing p with
  | nil => rfl
  | cons entry turns ih =>
    change ((p.step args entry.1 entry.2).bind fun p' => p'.run args (turns ++ turns')) = _
    change _ = ((p.step args entry.1 entry.2).bind (Process.run args turns)).bind _
    rw [Option.bind_assoc]
    congr 1
    funext p'
    exact ih p'

/-- What every turn of a request preserves, every run preserves. -/
theorem run_preserves {P : Request ρ → Prop} {i : ι} {turns : List (ι × Turn ρ)}
    (hturn : ∀ turn request request' (shared shared' : Shared ceiling), P request →
      governorMiddleware (args i) turn request shared = some (request', shared') → P request')
    (hrun : p.run args turns = some q) (h : P (p.requests i)) : P (q.requests i) := by
  induction turns generalizing p with
  | nil =>
    obtain rfl := Option.some.inj hrun
    exact h
  | cons entry turns ih =>
    obtain ⟨p', hstep, hrest⟩ := Option.bind_eq_some_iff.mp hrun
    obtain ⟨request, hmiddleware, hrequests⟩ := step_eq_some.mp hstep
    refine ih hrest ?_
    rw [hrequests]
    by_cases hi : i = entry.1
    · subst hi
      rw [Function.update_self]
      exact hturn _ _ _ _ _ h hmiddleware
    · rw [Function.update_of_ne hi]
      exact h

theorem run_timedOut {i : ι} {turns : List (ι × Turn ρ)} (h : (p.requests i).IsTimedOut)
    (hrun : p.run args turns = some q) : q.requests i = p.requests i := by
  refine run_preserves (P := fun request => request = p.requests i) ?_ hrun rfl
  rintro turn _ request' shared shared' rfl hmiddleware
  generalize p.requests i = request at h hmiddleware
  cases request with
  | timedOut locals message =>
    rw [governorMiddleware_timedOut] at hmiddleware
    cases hmiddleware
  | _ => cases h

end Process

/-- Over every run of any number of governed requests, any accounts and any timeouts: an
account has at most `ceiling` requests executing, the store counts the requests that hold
a slot, a request that has timed out holds nothing and at no moment of the run or after it
executes, a second call of `release` changes nothing, and the store is empty when no request
is active. -/
theorem governor_enforces_ceiling [DecidableEq ι] {store : SharedInMemoryGovernorStore ceiling}
    (hnew : SharedInMemoryGovernorStore.new ceiling = .ok store) (holderSeq : ℕ)
    (args : ι → GovernorArgs) {turns : List (ι × Turn ρ)} {p : Process ι ρ ceiling}
    (hrun : (Process.start store holderSeq).run args turns = some p) :
    (∀ account, {i | (args i).nsAccountId = account ∧ (p.requests i).IsExecuting}.encard ≤
      (ceiling : ℕ∞)) ∧
    (∀ account, (p.inFlight account : ℕ∞) =
      {i | (args i).nsAccountId = account ∧ (p.requests i).HoldsSlot}.encard) ∧
    (∀ i, (p.requests i).IsTimedOut →
      ¬(p.requests i).HoldsSlot ∧
      (∀ holderId, (p.requests i).holderId? = some holderId →
        ∀ account, holderId ∉ p.shared.store.bucket account) ∧
      (∀ done left q, turns = done ++ left →
        (Process.start store holderSeq).run args done = some q → ¬(q.requests i).IsExecuting) ∧
      ∀ turns' q, p.run args turns' = some q → ¬(q.requests i).IsExecuting) ∧
    (∀ i q, p.step args i .releasedAgain = some q → q = p) ∧
    ((∀ i, ¬(p.requests i).IsActive) → ∀ account, p.inFlight account = 0) := by
  have hconsistent : p.Consistent args := (Process.consistent_start hnew holderSeq).run hrun
  refine ⟨?_, ?_, ?_, ?_, ?_⟩
  · intro account
    exact hconsistent.encard_executing_le account
  · intro account
    exact (hconsistent.encard_holdsSlot account).symm
  · intro i htimedOut
    refine ⟨htimedOut.not_holdsSlot, ?_, ?_, ?_⟩
    · intro holderId hid account
      exact hconsistent.notMem_bucket htimedOut.not_holdsSlot hid account
    · intro done left q hturns hq hexecuting
      rw [hturns, Process.run_append, hq, Option.bind_some] at hrun
      exact htimedOut.not_begun (Process.run_preserves
        (fun _ _ _ _ _ => begun_of_governorMiddleware) hrun hexecuting.begun)
    · intro turns' q hq hexecuting
      rw [Process.run_timedOut htimedOut hq] at hexecuting
      exact htimedOut.not_begun hexecuting.begun
  · intro i q hstep
    obtain ⟨request, hturn, hrequests⟩ := Process.step_eq_some.mp hstep
    obtain ⟨hrequest, hshared⟩ := governorMiddleware_releasedAgain (hconsistent.shaped i) hturn
    rw [hrequest, Function.update_eq_self] at hrequests
    obtain ⟨shared, requests⟩ := q
    cases hrequests
    cases hshared
    rfl
  · intro hidle account
    have hnone : {i | (args i).nsAccountId = account ∧ (p.requests i).HoldsSlot} = ∅ :=
      Set.eq_empty_of_forall_notMem fun i hi => hidle i hi.2.isActive
    have hcount := hconsistent.encard_holdsSlot account
    rw [hnone, Set.encard_empty] at hcount
    exact_mod_cast hcount.symm

namespace Burst

/-- Every request is one of a single account. -/
def args (_ : Bool) : GovernorArgs where
  nsAccountId := "1234567"
  config := { acquireTimeoutMs := some 50 }

/-- Two requests are made at the time 1000; the first goes ahead, the second waits for longer
than it may, and the first comes back. -/
def turns : List (Bool × Turn Unit) :=
  [(true, .made 1000 1000), (false, .made 1000 1000), (true, .answered 1000),
    (false, .answered 1000), (true, .admitted), (false, .woken), (false, .answered 1060)]

/-- While the first request executes, the second has given up. -/
theorem ceiling_of_two : ∃ store p, SharedInMemoryGovernorStore.new 1 = .ok store ∧
    (Process.start store 0).run args turns = some p ∧
    (p.requests true).IsExecuting ∧ (p.requests false).IsTimedOut ∧
    (∀ account, {i | (args i).nsAccountId = account ∧ (p.requests i).IsExecuting}.encard ≤ 1) ∧
    (p.inFlight "1234567" : ℕ∞) =
      {i | (args i).nsAccountId = "1234567" ∧ (p.requests i).HoldsSlot}.encard ∧
    ∀ turns' q, p.run args turns' = some q → ¬(q.requests false).IsExecuting := by
  obtain ⟨store, hnew⟩ : ∃ store, SharedInMemoryGovernorStore.new 1 = .ok store := ⟨_, rfl⟩
  have hany : ((Process.start store 0).run args turns).any (fun p =>
      decide ((p.requests true).IsExecuting ∧ (p.requests false).IsTimedOut)) = true := by
    cases hnew
    decide +kernel
  obtain ⟨p, hrun, hboth⟩ := (Option.any_eq_true ..).mp hany
  obtain ⟨hexecuting, htimedOut⟩ := of_decide_eq_true hboth
  obtain ⟨hceiling, hinFlight, hgivenUp, _, _⟩ := governor_enforces_ceiling hnew 0 args hrun
  obtain ⟨_, _, _, hlater⟩ := hgivenUp false htimedOut
  exact ⟨store, p, hnew, hrun, hexecuting, htimedOut, hceiling, hinFlight "1234567", hlater⟩

end Burst

end DpIntegrator
