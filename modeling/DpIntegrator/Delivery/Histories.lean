import DpIntegrator.Core.Replay
import DpIntegrator.Functions.CatchupPoller
import DpIntegrator.Delivery.MainCalls
import DpIntegrator.Delivery.Records

/-!
# Histories

What happens to the stores, one activity after another: deliveries are handled, the
catch-up poller polls, operators request replays. A history is the list of activities
with what each did.
-/

namespace DpIntegrator

open Effects

/-- Something that is run against the stores. -/
inductive Activity
  | handle (deps : OrderHandlerDeps) (message : Js.Value) (attemptCtx : Option AttemptContext)
  | poll (deps : CatchupDeps) (config : CatchupConfig) (connectionId : String)
  | replay (req : ReplayRequest)

namespace Activity

/-- What an activity returns. -/
@[reducible] def Out : Activity → Type
  | handle .. => OrderHandlerOutcome
  | poll .. => ConnectionCatchupOutcome
  | replay .. => ReplayOutcome

/-- The function that an activity runs. -/
def program : (a : Activity) → Async a.Out
  | handle deps message attemptCtx => handleOrderMessage deps message attemptCtx
  | poll deps config connectionId => pollOneConnection deps config connectionId
  | replay req => requestReplay req

/-- What an activity did: its calls, and its result. -/
abbrev Record (a : Activity) : Type := List Ev × Except Thrown a.Out

/-- The activity `a`, run alone, takes the stores from `w` to `w'`. -/
def Performs (a : Activity) (w : World) (r : a.Record) (w' : World) : Prop :=
  Exec World.Step a.program.run w r.1 r.2 w'

end Activity

/-- Activities with what they did, in order. -/
abbrev History := List (Event Activity Activity.Record)

/-- The activities of a history take the stores from `w` to `w'`, one after another. -/
abbrev World.Passes : World → History → World → Prop := Effects.Steps Activity.Performs

/-- No activity changes the connections. -/
theorem World.Passes.connections_eq {w w' : World} {history : History}
    (h : w.Passes history w') : w'.connections = w.connections :=
  Effects.Steps.frame h fun _ _ _ _ hs => World.Steps.connections_eq hs.steps

/-! ## Deliveries in a history -/

/-- The handling of a delivery whose message is `message`. -/
def Delivery.handling (d : Delivery) (message : Js.Value) : Activity :=
  .handle d.deps message d.attemptCtx

/-- `message` is a well-formed message for the enabled connection of `d`. -/
structure Delivery.Delivers (d : Delivery) (message : Js.Value) (w : World) : Prop where
  parsed : parseOrderWebhookMessage message = .ok d.msg
  environment : d.msg.environment = d.deps.environment.text
  found : w.findById d.deps.environment d.msg.connectionId = some d.connection
  enabled : d.connection.enabled = true

section Handling

variable {d : Delivery} {message : Js.Value} {w w' : World} {tr : List Ev}
  {res : Except Thrown OrderHandlerOutcome}

/-- Connections stay, so a message that was for an enabled connection still is. -/
theorem Delivery.Delivers.of_connections (h : d.Delivers message w)
    (hconn : w'.connections = w.connections) : d.Delivers message w' :=
  ⟨h.parsed, h.environment, by rw [World.findById, hconn]; exact h.found, h.enabled⟩

/-- The connection that is found is the message's. -/
theorem Delivery.Delivers.connectionId_eq (h : d.Delivers message w) :
    d.connection.connectionId = d.msg.connectionId := by
  have hfound := List.find?_some h.found
  simp only [Bool.and_eq_true, decide_eq_true_eq] at hfound
  exact hfound.2

/-- A handling looks up the connection, and then delivers. -/
theorem Delivery.Delivers.performs (hd : d.Delivers message w)
    (h : (d.handling message).Performs w (tr, res) w') :
    (∃ e, tr = [connectionFound d.deps d.msg.connectionId (.error e)] ∧ res = .error e ∧
        w' = w) ∨
      ∃ t, tr = connectionFound d.deps d.msg.connectionId (.ok (some d.connection)) :: t ∧
        Settles (deliver d) t res ∧ w.Steps t w' := by
  obtain ⟨hruns, hsteps⟩ := h
  have hsettles : Settles (handleOrderMessage d.deps message d.attemptCtx) tr res := hruns
  simp only [handleOrderMessage, hd.parsed, hd.environment, ne_eq, not_true_eq_false,
    if_false] at hsettles
  obtain ⟨e, rfl, hfind⟩ | ⟨found, t₁, t₂, rfl, hfind, hrest⟩ := settles_bind.mp hsettles
  · obtain rfl := settles_io.mp hfind
    obtain ⟨w₁, hstep, hnil⟩ := steps_cons.mp hsteps
    obtain rfl := steps_nil.mp hnil
    exact .inl ⟨e, rfl, rfl, World.Step.eq_of_error hstep⟩
  · obtain rfl := settles_io.mp hfind
    obtain ⟨w₁, hstep, hdeliver⟩ := steps_cons.mp hsteps
    obtain ⟨hfound, rfl⟩ := World.Step.findConnection_ok hstep
    obtain rfl : found = some d.connection := hfound.trans hd.found
    simp only [hd.enabled, if_true] at hrest
    exact .inr ⟨t₂, rfl, hrest, hdeliver⟩

end Handling

end DpIntegrator
