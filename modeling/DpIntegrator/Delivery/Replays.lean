import DpIntegrator.Delivery.Import

/-!
# What a replay leaves

A replay deletes the row of its order and then publishes the order again. Between the two
calls the order is not claimed, and no message about it is queued.
-/

namespace DpIntegrator

open Effects

variable {req : ReplayRequest} {connection : Connection} {t tr : List Ev} {w w' : World}
  {key : String} {out : Except Thrown ReplayOutcome}

/-- The session of the order. -/
def ReplayRequest.sessionId (req : ReplayRequest) : String :=
  req.connectionId ++ ":" ++ req.orderGid

/-- No message is published in `tr`. -/
def Quiet (tr : List Ev) : Prop := ∀ sessionId msg r, answered (.enqueue sessionId msg) r ∉ tr

/-- The request may drop the row of `key`. -/
def Admits (req : ReplayRequest) (key : String) (w : World) : Prop :=
  ∀ row, w.xref key = some row → row.status = .synced → req.force = true

/-- How a replay ends: a call failed before anything happened, the request was refused, or
the row is gone and the order was published again, or at least that was tried. -/
inductive ReplayEnds (req : ReplayRequest) (key : String) (w : World) :
    List Ev → Except Thrown ReplayOutcome → World → Prop
  | failed {tr : List Ev} {e : Thrown} (c : Call) (hquiet : Quiet tr)
      (hmem : answered c (.error e) ∈ tr) : ReplayEnds req key w tr (.error e) w
  | refused {tr : List Ev} {o : ReplayOutcome} (hquiet : Quiet tr)
      (hwhy : w.findById req.environment req.connectionId = none ∨ ¬Admits req key w)
      (ho : ∀ previous sessionId, o ≠ .replayed previous sessionId) :
      ReplayEnds req key w tr (.ok o) w
  | sent {t : List Ev} {connection : Connection} {now : ℤ} {r : Except Thrown Unit} {w' : World}
      (hfound : w.findById req.environment req.connectionId = some connection)
      (hadmits : Admits req key w) (hquiet : Quiet t)
      (hsend : World.Step (.io (.enqueue req.sessionId (req.body connection now)))
        { w with xref := w.xref.drop key } r w') :
      ReplayEnds req key w (t ++ [answered (.enqueue req.sessionId (req.body connection now)) r])
        (r.map fun _ => .replayed ((w.xref key).map XrefRow.status) req.sessionId) w'

/-! ## The two halves -/

theorem XrefRows.drop_of_none {rows : XrefRows} (h : rows key = none) : rows.drop key = rows := by
  funext key'
  by_cases heq : key' = key
  · subst heq
    rw [XrefRows.drop_self, h]
  · exact rows.drop_of_ne heq

/-- Publishing again reads the clock, and enqueues one message. -/
theorem republish_sends {existing : Option XrefRow}
    (h : Settles (republish req connection existing) tr out) : ∃ now r,
      tr = [⟨Op.clock, now⟩] ++ [answered (.enqueue req.sessionId (req.body connection now)) r] ∧
        out = r.map fun _ => .replayed (existing.map XrefRow.status) req.sessionId := by
  unfold republish at h
  dsimp only at h
  obtain ⟨e, rfl, hnow⟩ | ⟨now, t₁, t₂, rfl, hnow, hrest⟩ := settles_bind.mp h
  · obtain ⟨_, _, he⟩ := settles_now.mp hnow
    cases he
  obtain ⟨clock, rfl, hclock⟩ := settles_now.mp hnow
  cases hclock
  refine ⟨now, ?_⟩
  obtain ⟨e, rfl, hput⟩ | ⟨u, t₃, t₄, rfl, hput, hret⟩ := settles_bind.mp hrest
  · obtain rfl := settles_io.mp hput
    exact ⟨.error e, rfl, rfl⟩
  · obtain rfl := settles_io.mp hput
    obtain ⟨rfl, rfl⟩ := settles_pure.mp hret
    exact ⟨.ok u, rfl, rfl⟩

theorem republish_ends {existing : Option XrefRow} {w₁ : World}
    (h : Settles (republish req connection existing) tr out) (hsteps : w₁.Steps tr w')
    (hw₁ : w₁ = { w with xref := w.xref.drop key }) (hexisting : existing = w.xref key)
    (hfound : w.findById req.environment req.connectionId = some connection)
    (hadmits : Admits req key w) (hquiet : Quiet t) : ReplayEnds req key w (t ++ tr) out w' := by
  obtain ⟨now, r, rfl, rfl⟩ := republish_sends h
  obtain ⟨w₂, hclock, hsteps⟩ := steps_cons.mp hsteps
  obtain ⟨w₃, hsend, hnil⟩ := steps_cons.mp hsteps
  obtain rfl := steps_nil.mp hnil
  obtain rfl : w₂ = w₁ := by
    cases hclock
    rfl
  subst hw₁ hexisting
  have hquiet' : Quiet (t ++ [⟨Op.clock, now⟩]) := by
    intro sessionId msg r' hmem
    obtain hmem | hmem := List.mem_append.mp hmem
    · exact hquiet _ _ _ hmem
    · cases List.mem_singleton.mp hmem
  rw [← List.append_assoc]
  exact .sent hfound hadmits hquiet' hsend

/-- The lookup decides whether the row is dropped. -/
theorem requestReplay_ends (hkey : dedupKey req.parts = .ok key)
    (h : Settles (requestReplay req) tr out) (hsteps : w.Steps tr w') :
    ReplayEnds req key w tr out w' := by
  unfold requestReplay at h
  obtain ⟨e, rfl, hfind⟩ | ⟨found, t₁, t₂, rfl, hfind, hrest⟩ := settles_bind.mp h
  · obtain rfl := settles_io.mp hfind
    obtain ⟨w₁, hstep, hnil⟩ := steps_cons.mp hsteps
    obtain rfl := steps_nil.mp hnil
    obtain rfl := World.Step.eq_of_error hstep
    exact .failed (.findConnection req.environment req.connectionId) (by simp [Quiet]) (by simp)
  obtain rfl := settles_io.mp hfind
  obtain ⟨w₁, hstep, hrun⟩ := steps_cons.mp hsteps
  obtain ⟨hfound, rfl⟩ := World.Step.findConnection_ok hstep
  cases found with
  | none =>
    obtain ⟨rfl, rfl⟩ := settles_pure.mp hrest
    obtain rfl := steps_nil.mp hrun
    exact .refused (by simp [Quiet]) (.inl hfound.symm) (by simp)
  | some connection =>
  obtain ⟨e, rfl, hlookup⟩ | ⟨existing, t₃, t₄, rfl, hlookup, hrest₁⟩ := settles_bind.mp hrest
  · obtain rfl := settles_io.mp hlookup
    obtain ⟨w₂, hstep₁, hnil⟩ := steps_cons.mp hrun
    obtain rfl := steps_nil.mp hnil
    obtain rfl := World.Step.eq_of_error hstep₁
    exact .failed (.lookupXref req.parts) (by simp [Quiet]) (by simp)
  obtain rfl := settles_io.mp hlookup
  obtain ⟨w₂, hstep₁, hrun₁⟩ := steps_cons.mp hrun
  obtain ⟨key', hkey', hexisting, rfl⟩ := World.Step.lookupXref_ok hstep₁
  obtain rfl : key' = key := Except.ok.inj (hkey'.symm.trans hkey)
  cases existing with
  | none =>
    rw [← List.append_assoc]
    refine republish_ends hrest₁ hrun₁ ?_ hexisting hfound.symm ?_ (by simp [Quiet])
    · rw [XrefRows.drop_of_none hexisting.symm]
    · intro row hrow
      rw [← hexisting] at hrow
      cases hrow
  | some row =>
    dsimp only at hrest₁
    by_cases hrefused : row.status = .synced ∧ req.force = false
    · rw [if_pos hrefused] at hrest₁
      obtain ⟨rfl, rfl⟩ := settles_pure.mp hrest₁
      obtain rfl := steps_nil.mp hrun₁
      refine .refused (by simp [Quiet]) (.inr fun hadmits => ?_) (by simp)
      simp [hadmits row hexisting.symm hrefused.1] at hrefused
    rw [if_neg hrefused] at hrest₁
    obtain ⟨e, rfl, hdelete⟩ | ⟨removed, t₅, t₆, rfl, hdelete, hrest₂⟩ := settles_bind.mp hrest₁
    · obtain rfl := settles_io.mp hdelete
      obtain ⟨w₃, hstep₂, hnil⟩ := steps_cons.mp hrun₁
      obtain rfl := steps_nil.mp hnil
      obtain rfl := World.Step.eq_of_error hstep₂
      exact .failed (.deleteXref req.parts) (by simp [Quiet]) (by simp)
    obtain rfl := settles_io.mp hdelete
    obtain ⟨w₃, hstep₂, hrun₂⟩ := steps_cons.mp hrun₁
    obtain ⟨key'', hkey'', _, rfl⟩ := World.Step.deleteXref_ok hstep₂
    obtain rfl : key'' = key' := Except.ok.inj (hkey''.symm.trans hkey)
    rw [← List.append_assoc, ← List.append_assoc]
    refine republish_ends hrest₂ hrun₂ rfl hexisting hfound.symm ?_ (by simp [Quiet])
    intro row' hrow' hsynced
    obtain rfl : row' = row := Option.some.inj (hrow'.symm.trans hexisting.symm)
    simpa [hsynced] using hrefused

/-! ## Failures between the two calls -/

/-- The request left the row of `key` as it was, or published a message. -/
structure AllOrNothing (key : String) (w : World) (tr : List Ev)
    (out : Except Thrown ReplayOutcome) (w' : World) : Prop where
  /-- A request that throws leaves the row as it was. -/
  restored : ∀ e, out = .error e → w'.xref key = w.xref key
  /-- The row is gone only if a message was published. -/
  published : w.xref key ≠ none → w'.xref key = none →
    ∃ sessionId msg, answered (.enqueue sessionId msg) (.ok ()) ∈ tr

/-- A replay is all or nothing if and only if there was no row, or publishing the message did
not fail. -/
theorem replay_all_or_nothing_iff (hkey : dedupKey req.parts = .ok key)
    (h : (Activity.replay req).Performs w (tr, out) w') : AllOrNothing key w tr out w' ↔
      w.xref key = none ∨ ∀ sessionId msg e, answered (.enqueue sessionId msg) (.error e) ∉ tr := by
  have hkept (out : Except Thrown ReplayOutcome) : AllOrNothing key w tr out w :=
    ⟨fun _ _ => rfl, fun hrow hnone => absurd hnone hrow⟩
  cases requestReplay_ends hkey h.runs h.steps with
  | failed _ hquiet | refused hquiet =>
    exact iff_of_true (hkept _) (.inr fun sessionId msg e => hquiet sessionId msg (.error e))
  | @sent t connection now r w₁ _ _ hquiet hsend =>
    cases r with
    | ok u =>
      refine iff_of_true ⟨fun e he => ?_, fun _ _ => ?_⟩ (.inr fun sessionId msg e => ?_)
      · cases he
      · refine ⟨req.sessionId, req.body connection now, ?_⟩
        exact List.mem_append_right _ (List.mem_singleton.mpr rfl)
      · intro hmem
        obtain hmem | hmem := List.mem_append.mp hmem
        · exact hquiet _ _ _ hmem
        · cases List.mem_singleton.mp hmem
    | error e =>
      obtain rfl := World.Step.eq_of_error hsend
      constructor
      · intro hall
        have hrow := hall.restored e rfl
        exact .inl (hrow.symm.trans (XrefRows.drop_self ..))
      · rintro (hnone | hsent)
        · refine ⟨fun _ _ => ?_, fun hrow => absurd hnone hrow⟩
          exact (XrefRows.drop_self ..).trans hnone.symm
        · exact absurd (List.mem_append_right _ (List.mem_singleton.mpr rfl)) (hsent _ _ _)

/-! ## A replay while the queue is unavailable -/

namespace Shop

/-- A replay of the order that does not force. -/
def replay : ReplayRequest := ⟨.dev, "conn-a", order.id, none, false⟩

theorem dedupKey_replay : dedupKey replay.parts = .ok Shop.key :=
  @Shop.dedupKey_parts (Shop.message none "") rfl

/-- Stores in which the order is parked. -/
def parked : World :=
  { world with xref := world.xref.put Shop.key { replay.parts.ignoredRow with status := .error } }

/-- Services that are up, but for the queue. -/
def withoutQueue : Responder :=
  down (fun c => match c with
    | .enqueue .. => true
    | _ => false) (newError "ServiceBus: the entity is not available")

/-- A replay of the parked order, with given services. -/
def replayed (s : Responder) : (Activity.replay replay).Record × World :=
  s.perform (.replay replay) parked

/-- The message that the replay publishes. -/
def republished : OrderWebhookMessage := replay.body Shop.connection 0

theorem republished_sent :
    answered (.enqueue replay.sessionId republished) (.ok ()) ∈ (replayed up).1.1 :=
  mem_of_enqueuedBy (by decide +kernel)

end Shop

/-- With the queue at hand the order of the shop is published again. -/
theorem replay_all_or_nothing_iff_shop :
    AllOrNothing Shop.key Shop.parked (Shop.replayed Shop.up).1.1 (Shop.replayed Shop.up).1.2
      (Shop.replayed Shop.up).2 := by
  refine (replay_all_or_nothing_iff Shop.dedupKey_replay (Shop.up.performs _ _)).mpr (.inr ?_)
  intro sessionId msg e hmem
  have hok : ∀ ev ∈ (Shop.replayed Shop.up).1.1, isFailedCall ev = false := by decide +kernel
  exact absurd (hok _ hmem) (by simp [isFailedCall])

/-- Without it the row is lost, and nothing is published. -/
theorem replay_loses_row :
    ¬∀ (req : ReplayRequest) (key : String) (w w' : World) (tr : List Ev)
      (out : Except Thrown ReplayOutcome), dedupKey req.parts = .ok key →
      (Activity.replay req).Performs w (tr, out) w' → AllOrNothing key w tr out w' := by
  intro h
  have hall := h Shop.replay Shop.key Shop.parked _ _ _ Shop.dedupKey_replay
    (Shop.withoutQueue.performs _ _)
  have herror : (Shop.replayed Shop.withoutQueue).1.2.isOk = false := by decide +kernel
  have hgone : (Shop.replayed Shop.withoutQueue).2.status Shop.key = none := by decide +kernel
  have hthere : Shop.parked.status Shop.key = some .error := by decide +kernel
  obtain ⟨e, he⟩ : ∃ e, (Shop.replayed Shop.withoutQueue).1.2 = .error e := by
    cases hout : (Shop.replayed Shop.withoutQueue).1.2 with
    | error e => exact ⟨e, rfl⟩
    | ok out => simp [hout, Except.isOk, Except.toBool] at herror
  have hrow := congrArg (Option.map XrefRow.status) (hall.restored e he)
  have hstatus : (Shop.replayed Shop.withoutQueue).2.status Shop.key =
      Shop.parked.status Shop.key := hrow
  simp [hgone, hthere] at hstatus

end DpIntegrator
