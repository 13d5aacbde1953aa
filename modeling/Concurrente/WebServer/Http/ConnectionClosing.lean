import Concurrente.WebServer.Http.ServiceSchedule

/-!
# Closing a connection

A handler closes the connection after a request of the old version of the
protocol, and when its client hangs up, whether the line has answered the
requests or not.  Nothing goes wrong when such a request is one that the handler
answers itself, and nothing of the connection is left in the line by then.
-/

namespace Concurrente.WebServer

open Library

namespace Service

variable {config : Configuration}

/-- A request of the old version is answered at once, and it and the end of the
input find nothing of their connection in the line. -/
structure EndsClear (actor : Actor config) (service : Service config) : Prop where
  version : ∀ taken ∈ service.routing actor, taken.2.httpVersion = closingVersion →
    taken.2.answer = .immediate ∧ service.Answered taken.1
  hangUp : ∀ connection ∈ service.ending actor, service.Answered connection

theorem endsClear_iff {actor : Actor config} {service : Service config} :
    EndsClear actor service ↔
      (∀ taken ∈ service.routing actor, taken.2.httpVersion = closingVersion →
        taken.2.answer = .immediate ∧ service.Answered taken.1) ∧
        ∀ connection ∈ service.ending actor, service.Answered connection :=
  ⟨fun ⟨version, hangUp⟩ => ⟨version, hangUp⟩, fun ⟨version, hangUp⟩ => ⟨version, hangUp⟩⟩

instance (actor : Actor config) : DecidablePred (EndsClear actor) :=
  fun _ => decidable_of_iff _ endsClear_iff.symm

/-- The line has nothing of the old version, and a handler that decides about a
connection owes nothing on it when it is to be closed. -/
structure Deciding (service : Service config) : Prop where
  producing : ∀ index connection number,
    service.serving index = .producing connection number →
    ∃ request, service.parsed[number]? = some request ∧
      request.httpVersion ≠ closingVersion
  deciding : ∀ index connection number,
    service.serving index = .deciding connection number →
    ∃ request, service.parsed[number]? = some request ∧
      (request.httpVersion = closingVersion → service.Answered connection)

/-- Nothing is owed on a connection that was closed, and nobody serves it. -/
structure Settled (service : Service config) (connection : Nat) : Prop where
  opened : connection < service.opened
  unserved : ∀ index, (service.serving index).client ≠ some connection
  answered : service.Answered connection

variable {capacity : Channel config → Option Nat} {service after : Service config}
  {connection : Nat}

theorem Answered.of_responded (answered : service.Answered connection)
    (parsed : after.parsed = service.parsed)
    (exchanges : after.exchanges = service.exchanges)
    (responded : service.line.store.responded <+: after.line.store.responded) :
    after.Answered connection := by
  intro exchange inside known
  rw [clientOf, parsed, exchanges] at known
  rw [exchanges] at inside
  exact responded.subset (answered exchange inside known)

theorem Answered.parse {meets : Actor config → Service config → Prop}
    (run : Reaches capacity meets service) (answered : service.Answered connection)
    (request : HttpRequest)
    (parsed : after.parsed = service.parsed ++ [request])
    (exchanges : after.exchanges = service.exchanges)
    (line : after.line = service.line) : after.Answered connection := by
  intro exchange inside known
  rw [exchanges] at inside
  obtain ⟨number, there, mine⟩ := clientOf_eq_some.mp known
  rw [exchanges] at there
  rw [parsed] at mine
  rw [line]
  rcases connectionOf_append_cases mine with old | ⟨rfl, _⟩
  · exact answered.of_getElem? there old
  · have known := run.recorded.lt_of_exchanged (List.mem_of_getElem? there)
    exact (Nat.lt_irrefl _ known).elim

theorem Answered.enqueue (answered : service.Answered connection) {number : Nat}
    (other : connectionOf service.parsed number ≠ some connection)
    (parsed : after.parsed = service.parsed)
    (exchanges : after.exchanges = service.exchanges ++ [number])
    (responded : service.line.store.responded <+: after.line.store.responded) :
    after.Answered connection := by
  intro exchange inside known
  obtain ⟨number', there, mine⟩ := clientOf_eq_some.mp known
  rw [exchanges] at there
  rw [parsed] at mine
  rcases getElem?_append_singleton there with old | ⟨_, rfl⟩
  · exact responded.subset (answered.of_getElem? old mine)
  · exact (other mine).elim

theorem Settled.of_serving (settled : Settled service connection)
    (opened : service.opened ≤ after.opened)
    (clients : ∀ index, (after.serving index).client = some connection →
      (service.serving index).client = some connection)
    (parsed : after.parsed = service.parsed)
    (exchanges : after.exchanges = service.exchanges)
    (responded : service.line.store.responded <+: after.line.store.responded) :
    Settled after connection := by
  constructor
  · exact settled.opened.trans_le opened
  · intro index serves
    exact settled.unserved index (clients index serves)
  · exact settled.answered.of_responded parsed exchanges responded

theorem Settled.step {meets : Actor config → Service config → Prop}
    {actor : Actor config} (run : Reaches capacity meets service)
    (settled : Settled service connection)
    (step : Step capacity service actor after) : Settled after connection := by
  have responded := step.responded_prefix run
  cases step with
  | connect =>
      refine settled.of_serving (Nat.le_succ _) (fun index serves => ?_) rfl rfl
        responded
      rcases Connections.client_update serves with ⟨_, new⟩ | ⟨_, old⟩
      · cases new
        exact (Nat.lt_irrefl _ settled.opened).elim
      · exact old
  | invalid | hangUp | close =>
      refine settled.of_serving (Nat.le_refl _) (fun index serves => ?_) rfl rfl
        responded
      rcases Connections.client_update serves with ⟨_, new⟩ | ⟨_, old⟩
      · cases new
      · exact old
  | answer serving | produce serving | next serving =>
      refine settled.of_serving (Nat.le_refl _) (fun index serves => ?_) rfl rfl
        responded
      rcases Connections.client_update serves with ⟨rfl, new⟩ | ⟨_, old⟩
      · cases new
        exact congrArg Serving.client serving
      · exact old
  | stop | line | disconnect =>
      exact settled.of_serving (Nat.le_refl _) (fun _ serves => serves) rfl rfl
        responded
  | @parse index request parsing =>
      constructor
      · exact settled.opened
      · intro other serves
        rcases Connections.client_update serves with ⟨rfl, new⟩ | ⟨_, old⟩
        · cases new
          exact settled.unserved other (congrArg Serving.client parsing)
        · exact settled.unserved other old
      · exact settled.answered.parse run _ rfl rfl rfl
  | @enqueue index _ _ _ _ _ _ _ _ routing =>
      constructor
      · exact settled.opened
      · intro other serves
        rcases Connections.client_update serves with ⟨rfl, new⟩ | ⟨_, old⟩
        · cases new
          exact settled.unserved other (congrArg Serving.client routing)
        · exact settled.unserved other old
      · refine settled.answered.enqueue (fun same => ?_) rfl rfl responded
        rw [run.connections.routed _ _ _ routing] at same
        cases same
        exact settled.unserved index (congrArg Serving.client routing)

/-- A connection on which nothing is owed is settled when its handler lets go of
it. -/
theorem Reaches.settled_idle {meets : Actor config → Service config → Prop}
    (run : Reaches capacity meets service) {index : Fin config.maxConnections}
    (mine : (service.serving index).client = some connection)
    (answered : service.Answered connection) :
    Settled { service with
      serving := Function.update service.serving index .idle
      closed := Function.update service.closed connection true } connection := by
  constructor
  · exact run.connections.served index connection mine
  · intro other serves
    rcases Connections.client_update serves with ⟨_, new⟩ | ⟨ne, old⟩
    · cases new
    · exact ne (run.connections.own other index connection old mine)
  · exact answered

/-! ## Requests of the old version -/

theorem Deciding.update (kept : Deciding service) {index : Fin config.maxConnections}
    {next : Serving}
    (serving : after.serving = Function.update service.serving index next)
    (requests : service.parsed <+: after.parsed)
    (answered : ∀ other client number, other ≠ index →
      service.serving other = .deciding client number →
      service.Answered client → after.Answered client)
    (producing : ∀ client number, next = .producing client number →
      ∃ request, after.parsed[number]? = some request ∧
        request.httpVersion ≠ closingVersion)
    (deciding : ∀ client number, next = .deciding client number →
      ∃ request, after.parsed[number]? = some request ∧
        (request.httpVersion = closingVersion → after.Answered client)) :
    Deciding after := by
  have old : ∀ {number : Nat} {request : HttpRequest},
      service.parsed[number]? = some request →
        after.parsed[number]? = some request := by
    intro number request found
    obtain ⟨rest, same⟩ := requests
    rw [← same, List.getElem?_append_left (List.getElem?_eq_some_iff.mp found).1, found]
  constructor
  · intro other client number at'
    rw [serving] at at'
    by_cases same : other = index
    · subst same
      rw [Function.update_self] at at'
      exact producing client number at'
    · rw [Function.update_of_ne same] at at'
      obtain ⟨request, found, version⟩ := kept.producing other client number at'
      exact ⟨request, old found, version⟩
  · intro other client number at'
    rw [serving] at at'
    by_cases same : other = index
    · subst same
      rw [Function.update_self] at at'
      exact deciding client number at'
    · rw [Function.update_of_ne same] at at'
      obtain ⟨request, found, version⟩ := kept.deciding other client number at'
      exact ⟨request, old found, fun closes =>
        answered other client number same at' (version closes)⟩

theorem Deciding.of_responded (kept : Deciding service)
    (serving : after.serving = service.serving)
    (parsed : after.parsed = service.parsed)
    (exchanges : after.exchanges = service.exchanges)
    (responded : service.line.store.responded <+: after.line.store.responded) :
    Deciding after := by
  constructor
  · intro index client number at'
    rw [serving] at at'
    rw [parsed]
    exact kept.producing index client number at'
  · intro index client number at'
    rw [serving] at at'
    obtain ⟨request, found, version⟩ := kept.deciding index client number at'
    refine ⟨request, by rw [parsed, found], fun closes => ?_⟩
    exact (version closes).of_responded parsed exchanges responded

theorem Deciding.step {meets : Actor config → Service config → Prop}
    {actor : Actor config} (run : Reaches capacity meets service)
    (kept : Deciding service) (clear : EndsClear actor service)
    (step : Step capacity service actor after) : Deciding after := by
  have responded := step.responded_prefix run
  cases step with
  | connect | invalid | hangUp | next | close =>
      refine kept.update rfl (List.prefix_refl _) (fun _ _ _ _ _ same => same) ?_ ?_
      · intro client number wrong
        cases wrong
      · intro client number wrong
        cases wrong
  | parse =>
      refine kept.update rfl (List.prefix_append _ _) ?_ ?_ ?_
      · intro _ client _ _ _ answered
        exact answered.parse run _ rfl rfl rfl
      · intro client number wrong
        cases wrong
      · intro client number wrong
        cases wrong
  | answer routing found =>
      refine kept.update rfl (List.prefix_refl _) (fun _ _ _ _ _ same => same) ?_ ?_
      · intro client number wrong
        cases wrong
      · intro client number same
        cases same
        exact ⟨_, found, fun closes =>
          (clear.version _ (routing_handler routing found) closes).2⟩
  | @enqueue index connection number request _ _ _ _ _ routing found calculated =>
      refine kept.update rfl (List.prefix_refl _) ?_ ?_ ?_
      · intro other client number' different deciding answered
        refine answered.enqueue (fun same => ?_) rfl rfl responded
        rw [run.connections.routed _ _ _ routing] at same
        cases same
        exact different (run.connections.own other index connection
          (congrArg Serving.client deciding) (congrArg Serving.client routing))
      · intro client number' same
        cases same
        refine ⟨request, found, fun closes => ?_⟩
        have immediate :=
          (clear.version _ (routing_handler routing found) closes).1
        cases calculated.symm.trans immediate
      · intro client number' wrong
        cases wrong
  | @produce index connection number _ line producing =>
      refine kept.update rfl (List.prefix_refl _) ?_ ?_ ?_
      · intro _ client _ _ _ answered
        exact answered.of_responded rfl rfl responded
      · intro client number' wrong
        cases wrong
      · intro client number' same
        cases same
        obtain ⟨request, found, version⟩ := kept.producing index connection number
          producing
        exact ⟨request, found, fun closes => (version closes).elim⟩
  | stop | line | disconnect =>
      exact kept.of_responded rfl rfl rfl responded

theorem Reaches.deciding (run : Reaches capacity EndsClear service) :
    Deciding service := by
  induction run with
  | refl =>
      constructor
      · intro index client number wrong
        cases wrong
      · intro index client number wrong
        cases wrong
  | tail reached step ih =>
      obtain ⟨_, clear, step⟩ := step
      exact ih.step reached clear step

/-! ## Closed connections -/

theorem closes_only {closed : Nat → Bool} {client : Nat}
    (earlier : ¬ closed connection = true)
    (later : Function.update closed client true connection = true) :
    connection = client := by
  by_contra ne
  rw [Function.update_of_ne ne] at later
  exact earlier later

/-- In a run whose steps meet the condition, closed connections are settled. -/
theorem Reaches.settled (run : Reaches capacity EndsClear service)
    (closed : service.closed connection = true) : Settled service connection := by
  induction run with
  | refl => cases closed
  | @tail before after reached step ih =>
      have run : Reaches capacity EndsClear before := reached
      obtain ⟨actor, clear, step⟩ := step
      by_cases earlier : before.closed connection = true
      · exact (ih earlier).step run step
      · cases step with
        | @close index client number request deciding found closes =>
            obtain rfl : connection = client := closes_only earlier closed
            obtain ⟨other, found', answered⟩ := run.deciding.deciding index
              connection number deciding
            cases found.symm.trans found'
            exact run.settled_idle (congrArg Serving.client deciding)
              (answered closes)
        | @hangUp index client parsing =>
            obtain rfl : connection = client := closes_only earlier closed
            exact run.settled_idle (congrArg Serving.client parsing)
              (clear.hangUp connection (ending_hangUp parsing))
        | connect | invalid | parse | answer | enqueue | produce | next | stop
        | line | disconnect => exact (earlier closed).elim

end Service

end Concurrente.WebServer
