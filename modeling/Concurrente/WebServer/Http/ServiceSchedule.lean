import Concurrente.WebServer.Http.AnswerRecords

/-!
# Schedules of the service

Single runs of the service can be computed, and a condition on their steps
checked on the way.
-/

namespace Concurrente.WebServer

open Library

namespace Service

variable {config : Configuration}

/-! ## What a handler comes to -/

/-- The connection of a request that the line has accepted. -/
def clientOf (service : Service config) (exchange : Nat) : Option Nat :=
  service.exchanges[exchange]?.bind (connectionOf service.parsed)

/-- Every request of a connection that the line has accepted is answered. -/
def Answered (service : Service config) (connection : Nat) : Prop :=
  ∀ exchange < service.exchanges.length,
    service.clientOf exchange = some connection →
      exchange ∈ service.line.store.responded

instance (service : Service config) (connection : Nat) :
    Decidable (service.Answered connection) :=
  inferInstanceAs (Decidable (∀ exchange < _, _ → _))

/-- The connection and the request that an actor is about to route. -/
def routing (service : Service config) : Actor config → Option (Nat × HttpRequest)
  | .handler index =>
      match service.serving index with
      | .routing connection number =>
          (service.parsed[number]?).map fun request => (connection, request)
      | _ => none
  | _ => none

/-- The connection on which an actor is about to find the end of the input. -/
def ending (service : Service config) : Actor config → Option Nat
  | .hangUp index =>
      match service.serving index with
      | .parsing connection => some connection
      | _ => none
  | _ => none

theorem clientOf_eq_some {service : Service config} {exchange connection : Nat} :
    service.clientOf exchange = some connection ↔
      ∃ number, service.exchanges[exchange]? = some number ∧
        connectionOf service.parsed number = some connection :=
  Option.bind_eq_some_iff

theorem Answered.of_getElem? {service : Service config} {connection : Nat}
    (answered : service.Answered connection) {exchange number : Nat}
    (there : service.exchanges[exchange]? = some number)
    (known : connectionOf service.parsed number = some connection) :
    exchange ∈ service.line.store.responded :=
  answered exchange (List.getElem?_eq_some_iff.mp there).1
    (clientOf_eq_some.mpr ⟨number, there, known⟩)

theorem routing_handler {service : Service config}
    {index : Fin config.maxConnections} {connection number : Nat}
    {request : HttpRequest}
    (serving : service.serving index = .routing connection number)
    (found : service.parsed[number]? = some request) :
    service.routing (.handler index) = some (connection, request) := by
  simp only [routing, serving, found, Option.map_some]

theorem ending_hangUp {service : Service config}
    {index : Fin config.maxConnections} {connection : Nat}
    (serving : service.serving index = .parsing connection) :
    service.ending (.hangUp index) = some connection := by
  simp only [ending, serving]

/-! ## Turns -/

/-- An entry of a schedule.  A handler takes the step its state allows; `route`
has the address at which an object would be created. -/
inductive Turn (config : Configuration) where
  | connect (index : Fin config.maxConnections)
  | parse (index : Fin config.maxConnections) (httpVersion : Text) (answer : Answer)
  | route (index : Fin config.maxConnections) (address : Address)
  | produce (index : Fin config.maxConnections)
  | decide (index : Fin config.maxConnections)
  | line (node : Node config)

/-- Who takes the step. -/
def Turn.actor : Turn config → Actor config
  | connect index | parse index _ _ | route index _ | produce index | decide index =>
      .handler index
  | line node => .line node

variable (capacity : Channel config → Option Nat)

/-- The state after an entry of a schedule, if it is possible. -/
def advance (service : Service config) : Turn config → Option (Service config)
  | .connect index =>
      match service.serving index,
          service.line.thread (.connectionHandler index) with
      | .idle, HttpConnectionHandler.consuming => some { service with
          serving := Function.update service.serving index (.parsing service.opened)
          opened := service.opened + 1 }
      | _, _ => none
  | .parse index httpVersion answer =>
      match service.serving index with
      | .parsing connection => some { service with
          serving := Function.update service.serving index
            (.routing connection service.parsed.length)
          parsed := service.parsed ++ [⟨connection, httpVersion, answer⟩] }
      | _ => none
  | .route index address =>
      match service.serving index with
      | .routing connection number =>
          match service.parsed[number]? with
          | some ⟨_, _, .immediate⟩ => some { service with
              serving :=
                Function.update service.serving index (.deciding connection number)
              written := service.written ++ [number] }
          | some ⟨_, _, .calculated appIndex queries⟩ =>
              match service.line.thread (.connectionHandler index),
                  HttpConnectionHandler.consume (.accept appIndex queries address)
                    service.line.store with
              | HttpConnectionHandler.consuming, some (store, thread) =>
                  some { service with
                    line := { service.line with
                      store
                      thread := Function.update service.line.thread
                        (.connectionHandler index) thread }
                    serving := Function.update service.serving index
                      (.producing connection number)
                    exchanges := service.exchanges ++ [number] }
              | _, _ => none
          | none => none
      | _ => none
  | .produce index =>
      match service.serving index,
          service.line.thread (.connectionHandler index) with
      | .producing connection number, HttpConnectionHandler.producing _ =>
          ((config.network capacity).advance (.connectionHandler index) .proceed true
            service.line).map fun after => { service with
              line := after
              serving :=
                Function.update service.serving index (.deciding connection number) }
      | _, _ => none
  | .decide index =>
      match service.serving index with
      | .deciding connection number =>
          (service.parsed[number]?).map fun request =>
            if request.httpVersion = closingVersion then { service with
              serving := Function.update service.serving index .idle
              closed := Function.update service.closed connection true }
            else { service with
              serving := Function.update service.serving index (.parsing connection) }
      | _ => none
  | .line node =>
      if Configuration.acceptsRequests node then none
      else
        ((config.network capacity).advance node .proceed true service.line).map
          fun after => { service with
            line := after
            written := service.written ++
              (after.store.responded.drop service.line.store.responded.length).map
                fun number => service.exchanges.getD number 0 }

/-- The state after a schedule, if every entry is permitted and possible. -/
def exec (permits : Actor config → Service config → Bool) :
    List (Turn config) → Service config → Option (Service config)
  | [], service => some service
  | turn :: turns, service =>
      if permits turn.actor service then
        (service.advance capacity turn).bind (exec permits turns)
      else none

variable {capacity}

theorem Step.of_advance {turn : Turn config} {service after : Service config}
    (result : service.advance capacity turn = some after) :
    Step capacity service turn.actor after := by
  cases turn with
  | connect index =>
      simp only [advance] at result
      split at result
      next idle consuming =>
        cases result
        exact .connect idle consuming
      next => cases result
  | parse index httpVersion answer =>
      simp only [advance] at result
      split at result
      next connection parsing =>
        cases result
        exact @Step.parse config capacity service index
          ⟨connection, httpVersion, answer⟩ parsing
      next => cases result
  | route index address =>
      simp only [advance] at result
      split at result
      next connection number serving =>
        split at result
        next client version found =>
          cases result
          exact .answer serving found rfl
        next client version appIndex queries found =>
          split at result
          next store thread consuming accepts =>
            cases result
            exact .enqueue serving found rfl consuming accepts
          next => cases result
        next => cases result
      next => cases result
  | produce index =>
      simp only [advance] at result
      split at result
      next connection number data producing sending =>
        obtain ⟨line, advanced, rfl⟩ := Option.map_eq_some_iff.mp result
        exact .produce producing sending (.of_advance advanced)
      next => cases result
  | decide index =>
      simp only [advance] at result
      split at result
      next connection number deciding =>
        obtain ⟨request, found, rfl⟩ := Option.map_eq_some_iff.mp result
        split
        next closes => exact .close deciding found closes
        next stays => exact .next deciding found stays
      next => cases result
  | line node =>
      simp only [advance] at result
      split at result
      next => cases result
      next other =>
        obtain ⟨line, advanced, rfl⟩ := Option.map_eq_some_iff.mp result
        refine .line ?_ (.of_advance advanced)
        rintro index rfl
        exact other rfl

/-- What a schedule computes is the state after a run. -/
theorem Reaches.of_exec {meets : Actor config → Service config → Prop}
    {permits : Actor config → Service config → Bool}
    (allowed : ∀ {actor service}, permits actor service = true → meets actor service)
    {turns : List (Turn config)} {service after : Service config}
    (run : Reaches capacity meets service)
    (result : service.exec capacity permits turns = some after) :
    Reaches capacity meets after := by
  induction turns generalizing service with
  | nil =>
      cases result
      exact run
  | cons turn turns ih =>
      simp only [exec] at result
      split at result
      next permitted =>
        obtain ⟨next, advanced, rest⟩ := Option.bind_eq_some_iff.mp result
        exact ih (run.tail ⟨turn.actor, allowed permitted, .of_advance advanced⟩) rest
      next => cases result

/-- A schedule whose steps meet a condition and whose last state passes a check. -/
theorem Reaches.exists_of_exec {meets : Actor config → Service config → Prop}
    [∀ actor, DecidablePred (meets actor)] {check : Service config → Prop}
    [DecidablePred check] {turns : List (Turn config)}
    (checked : ((start config).exec capacity
      (fun actor service => decide (meets actor service)) turns).any
        (fun service => decide (check service)) = true) :
    ∃ service, Reaches capacity meets service ∧ check service := by
  obtain ⟨service, result, passed⟩ := (Option.any_eq_true _ _).mp checked
  exact ⟨service, Reaches.of_exec of_decide_eq_true .refl result,
    of_decide_eq_true passed⟩

/-! ## Parts of schedules -/

/-- The handler reads a request of its client and passes it on. -/
def askTurns (httpVersion : Text) (queries : List Int64) (address : Address) :
    List (Turn sampleConfiguration) :=
  [.parse only httpVersion (.calculated 0 queries), .route only address,
    .produce only, .decide only]

/-- A unit goes through the line until its object waits for the responder. -/
def calculateTurns : List (Turn sampleConfiguration) :=
  [.line .decomposer, .line .decomposer, .line .decomposer, .line .decomposer,
    .line .distributor, .line .distributor, .line .distributor,
    .line (.calculator only), .line (.calculator only), .line (.calculator only),
    .line .responseAssembler, .line .responseAssembler, .line .responseAssembler]

/-- The responder takes an object and answers. -/
def respondTurns : List (Turn sampleConfiguration) :=
  [.line .clientResponder, .line .clientResponder]

/-- The handler reads a request of its client and answers it. -/
def serveTurns (httpVersion : Text) : List (Turn sampleConfiguration) :=
  [.parse only httpVersion .immediate, .route only 0]

end Service

end Concurrente.WebServer
