import DpIntegrator.Effects.Interleaving
import DpIntegrator.Delivery.Responses

/-!
# Activities at the same time

Activities that run at the same time, one call of one of them after another. Each may
stop part of the way, as when its host dies. What a thread did so far is the beginning of
a run of its function.
-/

namespace DpIntegrator

open Effects

/-- An activity, or a lone deletion of a row. -/
inductive Thread
  | runs (a : Activity)
  | deletes (parts : DedupKeyParts)

/-- What a thread runs. Its result is not of interest. -/
def Thread.program : Thread → Async Unit
  | runs a => do
    let _ ← a.program
    return ()
  | deletes parts => do
    let _ ← Async.io (.deleteXref parts)
    return ()

/-- The threads took the stores from `w` to `w'` by the calls of `log`. -/
abbrev World.Interleaves {ι : Type} [DecidableEq ι] (threads : ι → Thread) : World →
    List (ι × Ev) → World → Prop :=
  Effects.Interleaves World.Step fun i => Partial (threads i).program.run

section Threads

variable {tr : List Ev}

/-- A thread that runs an activity runs its function. -/
theorem Thread.settles_of_runs {a : Activity} {res : Except Thrown Unit}
    (h : Settles (Thread.runs a).program tr res) : ∃ res', Settles a.program tr res' := by
  obtain ⟨e, _, hactivity⟩ | ⟨out, t₁, t₂, rfl, hactivity, hret⟩ := settles_bind.mp h
  · exact ⟨_, hactivity⟩
  · obtain ⟨rfl, _⟩ := settles_pure.mp hret
    rw [List.append_nil]
    exact ⟨_, hactivity⟩

/-- What a thread that runs an activity did so far can be carried on to a run of it. -/
theorem Thread.runs_settles {a : Activity} (h : Partial (Thread.runs a).program.run tr) :
    ∃ rest res, Settles a.program (tr ++ rest) res := by
  obtain ⟨rest, res, hruns⟩ := h.exists_runs
  have hsettles : Settles (Thread.runs a).program (tr ++ rest) res := hruns
  exact ⟨rest, Thread.settles_of_runs hsettles⟩

/-- A lone deletion makes at most one call. -/
theorem Thread.deletes_calls {parts : DedupKeyParts}
    (h : Partial (Thread.deletes parts).program.run tr) :
    tr = [] ∨ ∃ r, tr = [answered (.deleteXref parts) r] := by
  obtain ⟨rest, res, hruns⟩ := h.exists_runs
  have hsettles : Settles (Thread.deletes parts).program (tr ++ rest) res := hruns
  have hcall : ∃ r, tr ++ rest = [answered (.deleteXref parts) r] := by
    obtain ⟨e, _, hio⟩ | ⟨out, t₁, t₂, heq, hio, hret⟩ := settles_bind.mp hsettles
    · exact ⟨_, settles_io.mp hio⟩
    · obtain ⟨rfl, _⟩ := settles_pure.mp hret
      obtain rfl := settles_io.mp hio
      exact ⟨_, heq⟩
  obtain ⟨r, hr⟩ := hcall
  obtain ⟨rfl, _⟩ | ⟨rfl, _⟩ := List.append_eq_singleton_iff.mp hr
  · exact .inl rfl
  · exact .inr ⟨r, rfl⟩

end Threads

/-! ## What replays call -/

/-- Calls of a replay that write no row. -/
inductive ReplayCall (req : ReplayRequest) : Ev → Prop
  | find (r : Except Thrown (Option Connection)) :
      ReplayCall req (answered (.findConnection req.environment req.connectionId) r)
  | lookup (r : Except Thrown (Option XrefRow)) :
      ReplayCall req (answered (.lookupXref req.parts) r)
  | clock (now : ℤ) : ReplayCall req ⟨.clock, now⟩
  | enqueue (sessionId : String) (body : OrderWebhookMessage) (r : Except Thrown Unit) :
      ReplayCall req (answered (.enqueue sessionId body) r)

/-- The runs of a replay: most delete nothing, the others delete the row that they looked up,
which is not synced unless the request forces. -/
inductive ReplayRun (req : ReplayRequest) : List Ev → Prop
  | kept {t : List Ev} (h : Only (ReplayCall req) t) : ReplayRun req t
  | dropped {t : List Ev} {connection : Connection} {existing : XrefRow}
      {r : Except Thrown (Option XrefRow)} (hforce : existing.status = .synced → req.force = true)
      (h : Only (ReplayCall req) t) :
      ReplayRun req
        (answered (.findConnection req.environment req.connectionId) (.ok (some connection)) ::
          answered (.lookupXref req.parts) (.ok (some existing)) ::
          answered (.deleteXref req.parts) r :: t)

section Replays

variable {req : ReplayRequest} {t : List Ev}

theorem republish_calls (connection : Connection) (existing : Option XrefRow) :
    Issues (ReplayCall req) (republish req connection existing) :=
  (Issues.observe .clock).bind fun _ => (issues_io (.enqueue _ _)).bind fun _ => .pure _

theorem requestReplay_runs {out : Except Thrown ReplayOutcome}
    (h : Settles (requestReplay req) t out) : ReplayRun req t := by
  unfold requestReplay at h
  obtain ⟨e, rfl, hfind⟩ | ⟨found, t₁, t₂, rfl, hfind, hrest⟩ := settles_bind.mp h
  · obtain rfl := settles_io.mp hfind
    exact .kept (.cons (.find _) .nil)
  obtain rfl := settles_io.mp hfind
  cases found with
  | none =>
    obtain ⟨rfl, _⟩ := settles_pure.mp hrest
    exact .kept (.cons (.find _) .nil)
  | some connection =>
    obtain ⟨e, rfl, hlookup⟩ | ⟨existing, t₃, t₄, rfl, hlookup, hrest₁⟩ := settles_bind.mp hrest
    · obtain rfl := settles_io.mp hlookup
      exact .kept (.cons (.find _) (.cons (.lookup _) .nil))
    obtain rfl := settles_io.mp hlookup
    cases existing with
    | none =>
      have hcalls := republish_calls connection none _ _ hrest₁
      exact .kept (.cons (.find _) (.cons (.lookup _) hcalls))
    | some existing =>
      dsimp only at hrest₁
      by_cases hrefused : existing.status = .synced ∧ req.force = false
      · rw [if_pos hrefused] at hrest₁
        obtain ⟨rfl, _⟩ := settles_pure.mp hrest₁
        exact .kept (.cons (.find _) (.cons (.lookup _) .nil))
      rw [if_neg hrefused] at hrest₁
      have hforce : existing.status = .synced → req.force = true := by
        intro hsynced
        simpa [hsynced] using hrefused
      obtain ⟨e, rfl, hdelete⟩ | ⟨removed, t₅, t₆, rfl, hdelete, hrest₂⟩ := settles_bind.mp hrest₁
      · obtain rfl := settles_io.mp hdelete
        exact .dropped hforce .nil
      · obtain rfl := settles_io.mp hdelete
        exact .dropped hforce (republish_calls connection _ _ _ hrest₂)

end Replays

/-! ## Turns against a responder -/

/-- Let threads take turns as `turns` says. -/
def Responder.interleave {ι : Type} [DecidableEq ι] (s : Responder) (threads : ι → Thread)
    (turns : List ι) (w : World) : List (ι × Ev) × World :=
  Effects.interleave s.respond turns (fun i => (threads i).program.run) w

theorem Responder.interleaves {ι : Type} [DecidableEq ι] (s : Responder) (threads : ι → Thread)
    (turns : List ι) (w : World) : World.Interleaves threads w (s.interleave threads turns w).1
      (s.interleave threads turns w).2 :=
  interleaves_interleave s.step_respond turns _ w

/-- Whether thread `i` has returned after its turns. -/
def Responder.isDone {ι : Type} [DecidableEq ι] (s : Responder) (threads : ι → Thread)
    (turns : List ι) (w : World) (i : ι) : Bool :=
  (Effects.remaining s.respond turns (fun i => (threads i).program.run) w i).isRet

/-- The calls of a thread that has returned are a whole run of its activity. -/
theorem Responder.settles_of_isDone {ι : Type} [DecidableEq ι] {s : Responder}
    {threads : ι → Thread} {turns : List ι} {w : World} {i : ι} {a : Activity}
    (hdone : s.isDone threads turns w i = true) (hthread : threads i = .runs a) :
    ∃ res, Settles a.program (callsOf i (s.interleave threads turns w).1) res := by
  obtain ⟨res, hres⟩ := Prog.eq_ret_of_isRet hdone
  have hreaches := @reaches_remaining _ _ _ _ _ _ s.respond turns
    (fun i => (threads i).program.run) w i
  rw [hres, hthread] at hreaches
  exact Thread.settles_of_runs hreaches.runs

end DpIntegrator
