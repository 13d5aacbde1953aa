import Concurrente.WebServer.Http.AnswerOrder

/-!
# Client connections

A connection handler serves one client after another.  It reads the requests of
its client as they come: some it answers itself, and for others it enqueues an
object and goes on, so that the responder answers them later, on the same
socket.  What a request asks for comes from outside, as does whether there is
another one.

The last application of the chain handles every request, so a handler closes a
connection for the version of the protocol, or because a read finds that the
client has closed its end.
-/

namespace Concurrente.WebServer

open Library

/-- What an application makes of a request: a response of its own, or the
queries of a concurrent one. -/
inductive Answer where
  | immediate
  | calculated (appIndex : UInt64) (queries : List Int64)
  deriving DecidableEq, Repr

/-- `HttpRequest`, with the connection it was parsed from. -/
structure HttpRequest where
  connection : Nat
  httpVersion : Text
  answer : Answer
  deriving DecidableEq, Repr

/-- What a connection handler does for its client.  A request is named by its
place among all that were parsed. -/
inductive Serving where
  | idle
  | parsing (connection : Nat)
  | routing (connection request : Nat)
  | producing (connection request : Nat)
  | deciding (connection request : Nat)
  deriving DecidableEq, Repr

/-- The connection of the client that is served. -/
def Serving.client : Serving → Option Nat
  | idle => none
  | parsing connection => some connection
  | routing connection _ => some connection
  | producing connection _ => some connection
  | deciding connection _ => some connection

/-- The connection a request was parsed from. -/
def connectionOf (parsed : List HttpRequest) (request : Nat) : Option Nat :=
  parsed[request]?.map HttpRequest.connection

theorem getElem?_append_singleton {α : Type} {items : List α} {last item : α}
    {index : Nat} (found : (items ++ [last])[index]? = some item) :
    items[index]? = some item ∨ index = items.length ∧ item = last := by
  by_cases inside : index < items.length
  · rw [List.getElem?_append_left inside] at found
    exact .inl found
  · obtain ⟨bound, _⟩ := List.getElem?_eq_some_iff.mp found
    rw [List.length_append, List.length_singleton] at bound
    have same : index = items.length := by omega
    subst same
    rw [List.getElem?_concat_length] at found
    cases found
    exact .inr ⟨rfl, rfl⟩

section Parsed

variable {parsed : List HttpRequest} {request : HttpRequest}

theorem connectionOf_append {number connection : Nat}
    (known : connectionOf parsed number = some connection) :
    connectionOf (parsed ++ [request]) number = some connection := by
  obtain ⟨old, found, same⟩ := Option.map_eq_some_iff.mp known
  obtain ⟨inside, _⟩ := List.getElem?_eq_some_iff.mp found
  rw [connectionOf, List.getElem?_append_left inside, found, Option.map_some, same]

theorem connectionOf_append_cases {number connection : Nat}
    (known : connectionOf (parsed ++ [request]) number = some connection) :
    connectionOf parsed number = some connection ∨
      number = parsed.length ∧ request.connection = connection := by
  obtain ⟨other, found, same⟩ := Option.map_eq_some_iff.mp known
  rcases getElem?_append_singleton found with old | ⟨last, rfl⟩
  · left
    rw [connectionOf, old, Option.map_some, same]
  · exact .inr ⟨last, same⟩

theorem connectionOf_of_getElem? {number : Nat}
    (found : parsed[number]? = some request) :
    connectionOf parsed number = some request.connection := by
  rw [connectionOf, found]
  rfl

theorem connectionOf_lt {number connection : Nat}
    (known : connectionOf parsed number = some connection) :
    number < parsed.length := by
  obtain ⟨_, found, _⟩ := Option.map_eq_some_iff.mp known
  exact (List.getElem?_eq_some_iff.mp found).1

end Parsed

/-- The line together with the client connections.  `exchanges` are the
requests that the line has accepted, by their numbers there, and `written` the
requests that were answered, in the order of the answers. -/
structure Service (config : Configuration) where
  line : config.State
  serving : Fin config.maxConnections → Serving
  opened : Nat
  parsed : List HttpRequest
  exchanges : List Nat
  written : List Nat
  closed : Nat → Bool

/-- Who takes a step: a connection handler, the client of a handler that hangs
up, another thread of the line, or a worker that disconnects. -/
inductive Actor (config : Configuration) where
  | handler (index : Fin config.maxConnections)
  | hangUp (index : Fin config.maxConnections)
  | line (node : Node config)
  | disconnect (worker : config.Worker)

namespace Service

variable {config : Configuration}

/-- The version of the protocol after which a connection is closed. -/
def closingVersion : Text := "HTTP/1.0".toList

/-- A step of the service.  A handler runs `HttpConnectionHandler::consume` for
each connection. -/
inductive Step (capacity : Channel config → Option Nat)
    (service : Service config) : Actor config → Service config → Prop where
  | connect {index : Fin config.maxConnections}
      (idle : service.serving index = .idle)
      (consuming : service.line.thread (.connectionHandler index) =
        HttpConnectionHandler.consuming) :
      Step capacity service (.handler index) { service with
        serving := Function.update service.serving index (.parsing service.opened)
        opened := service.opened + 1 }
  | invalid {index : Fin config.maxConnections} {connection : Nat}
      (parsing : service.serving index = .parsing connection) :
      Step capacity service (.handler index) { service with
        serving := Function.update service.serving index .idle }
  -- `Socket::readAvailable` gets no bytes, and closes the socket
  | hangUp {index : Fin config.maxConnections} {connection : Nat}
      (parsing : service.serving index = .parsing connection) :
      Step capacity service (.hangUp index) { service with
        serving := Function.update service.serving index .idle
        closed := Function.update service.closed connection true }
  | parse {index : Fin config.maxConnections} {request : HttpRequest}
      (parsing : service.serving index = .parsing request.connection) :
      Step capacity service (.handler index) { service with
        serving := Function.update service.serving index
          (.routing request.connection service.parsed.length)
        parsed := service.parsed ++ [request] }
  | answer {index : Fin config.maxConnections} {connection number : Nat}
      {request : HttpRequest}
      (routing : service.serving index = .routing connection number)
      (found : service.parsed[number]? = some request)
      (immediate : request.answer = .immediate) :
      Step capacity service (.handler index) { service with
        serving :=
          Function.update service.serving index (.deciding connection number)
        written := service.written ++ [number] }
  | enqueue {index : Fin config.maxConnections} {connection number : Nat}
      {request : HttpRequest} {appIndex : UInt64} {queries : List Int64}
      {address : Address} {store : Shared config} {thread : HttpConnectionHandler}
      (routing : service.serving index = .routing connection number)
      (found : service.parsed[number]? = some request)
      (calculated : request.answer = .calculated appIndex queries)
      (consuming : service.line.thread (.connectionHandler index) =
        HttpConnectionHandler.consuming)
      (accepts : HttpConnectionHandler.consume (.accept appIndex queries address)
        service.line.store = some (store, thread)) :
      Step capacity service (.handler index) { service with
        line := { service.line with
          store
          thread :=
            Function.update service.line.thread (.connectionHandler index) thread }
        serving :=
          Function.update service.serving index (.producing connection number)
        exchanges := service.exchanges ++ [number] }
  | produce {index : Fin config.maxConnections} {connection number : Nat}
      {data : Address} {after : config.State}
      (producing : service.serving index = .producing connection number)
      (sending : service.line.thread (.connectionHandler index) =
        HttpConnectionHandler.producing data)
      (step : Network.Step (config.network capacity) (.connectionHandler index)
        service.line after) :
      Step capacity service (.handler index) { service with
        line := after
        serving :=
          Function.update service.serving index (.deciding connection number) }
  | next {index : Fin config.maxConnections} {connection number : Nat}
      {request : HttpRequest}
      (deciding : service.serving index = .deciding connection number)
      (found : service.parsed[number]? = some request)
      (stays : request.httpVersion ≠ closingVersion) :
      Step capacity service (.handler index) { service with
        serving := Function.update service.serving index (.parsing connection) }
  | close {index : Fin config.maxConnections} {connection number : Nat}
      {request : HttpRequest}
      (deciding : service.serving index = .deciding connection number)
      (found : service.parsed[number]? = some request)
      (closes : request.httpVersion = closingVersion) :
      Step capacity service (.handler index) { service with
        serving := Function.update service.serving index .idle
        closed := Function.update service.closed connection true }
  | stop {index : Fin config.maxConnections} {after : config.State}
      (idle : service.serving index = .idle)
      (step : Network.Step (config.network capacity) (.connectionHandler index)
        service.line after)
      (stops : after.store = service.line.store) :
      Step capacity service (.handler index) { service with line := after }
  | line {node : Node config} {after : config.State}
      (other : ∀ index, node ≠ .connectionHandler index)
      (step : Network.Step (config.network capacity) node service.line after) :
      Step capacity service (.line node) { service with
        line := after
        -- what the responder has answered in this step
        written := service.written ++
          (after.store.responded.drop service.line.store.responded.length).map
            fun number => service.exchanges.getD number 0 }
  | disconnect (worker : config.Worker) :
      Step capacity service (.disconnect worker) { service with
        line := { service.line with
          closed := Function.update service.line.closed worker true } }

/-- No client has connected yet. -/
def start (config : Configuration) : Service config where
  line := config.start
  serving _ := .idle
  opened := 0
  parsed := []
  exchanges := []
  written := []
  closed _ := false

/-- The states of all runs whose steps meet a condition. -/
def Reaches (capacity : Channel config → Option Nat)
    (meets : Actor config → Service config → Prop) : Service config → Prop :=
  Relation.ReflTransGen
    (fun before after => ∃ actor, meets actor before ∧
      Step capacity before actor after) (start config)

variable {capacity : Channel config → Option Nat}
  {meets : Actor config → Service config → Prop} {service : Service config}

/-- What a step of the service means for the line. -/
theorem Step.moves {actor : Actor config} {after : Service config}
    (step : Step capacity service actor after) :
    after.line = service.line ∨
      Network.Move (config.network capacity) True (fun _ _ => True) service.line
        after.line := by
  cases step with
  | connect | invalid | hangUp | parse | answer | next | close => exact .inl rfl
  | produce _ _ step | stop _ step | line _ step =>
      exact .inr (.step trivial step)
  | disconnect worker => exact .inr (.close trivial worker)
  | @enqueue index _ _ _ _ _ _ _ _ _ _ _ consuming accepts =>
      refine .inr (.step trivial (.work ?_ accepts))
      change config.act (.connectionHandler index) (service.line.thread _) = _
      rw [consuming]
      rfl

/-- A run of the service is a run of the line. -/
theorem Reaches.line (run : Reaches capacity meets service) :
    Network.Reaches (config.network capacity) True (fun _ _ => True) config.start
      service.line := by
  induction run with
  | refl => exact .refl
  | tail _ step ih =>
      obtain ⟨_, _, step⟩ := step
      rcases step.moves with same | move
      · rw [same]
        exact ih
      · exact ih.tail move

theorem store_of_producing {index : Fin config.maxConnections}
    {before after : config.State} {data : Address}
    (sending : before.thread (.connectionHandler index) =
      HttpConnectionHandler.producing data)
    (step : Network.Step (config.network capacity) (.connectionHandler index)
      before after) : after.store = before.store := by
  have acting : config.act (.connectionHandler index) (before.thread _) =
      .send .decomposerQueue (some data) fun _ => .consuming := by
    rw [sending]
    rfl
  cases step with
  | receive | receiveClosed | send | sendClosed => rfl
  | work acts => cases acting.symm.trans acts

theorem Step.responded_prefix {actor : Actor config} {after : Service config}
    (run : Reaches capacity meets service)
    (step : Step capacity service actor after) :
    service.line.store.responded <+: after.line.store.responded := by
  rcases step.moves with same | move
  · rw [same]
  · generalize after.line = line at move
    cases move with
    | close => exact List.prefix_refl _
    | step _ step =>
        exact Configuration.responded_prefix (config.accounted run.line) step

/-! ## Whose request is whose -/

/-- Each connection belongs to one handler at most, and a request that is
routed is the last one of its connection. -/
structure Connections {handlers : Type} (parsed : List HttpRequest) (opened : Nat)
    (serving : handlers → Serving) : Prop where
  known : ∀ number connection,
    connectionOf parsed number = some connection → connection < opened
  served : ∀ index connection,
    (serving index).client = some connection → connection < opened
  own : ∀ first second connection, (serving first).client = some connection →
    (serving second).client = some connection → first = second
  routed : ∀ index connection number,
    serving index = .routing connection number →
    connectionOf parsed number = some connection
  latest : ∀ index connection number,
    serving index = .routing connection number →
    ∀ other, connectionOf parsed other = some connection → other ≤ number

namespace Connections

variable {handlers : Type} [DecidableEq handlers] {parsed : List HttpRequest}
  {opened : Nat} {serving : handlers → Serving}

theorem client_update {index other : handlers} {next : Serving}
    {connection : Nat}
    (serves : (Function.update serving index next other).client =
      some connection) :
    (other = index ∧ next.client = some connection) ∨
      other ≠ index ∧ (serving other).client = some connection := by
  by_cases same : other = index
  · subst same
    rw [Function.update_self] at serves
    exact .inl ⟨rfl, serves⟩
  · rw [Function.update_of_ne same] at serves
    exact .inr ⟨same, serves⟩

theorem routing_update {index other : handlers} {next : Serving}
    {connection number : Nat}
    (routing : Function.update serving index next other =
      .routing connection number) :
    (other = index ∧ next = .routing connection number) ∨
      other ≠ index ∧ serving other = .routing connection number := by
  by_cases same : other = index
  · subst same
    rw [Function.update_self] at routing
    exact .inl ⟨rfl, routing⟩
  · rw [Function.update_of_ne same] at routing
    exact .inr ⟨same, routing⟩

/-- A handler goes on with its client, or lets go of it. -/
theorem serve (kept : Connections parsed opened serving) {index : handlers}
    {next : Serving}
    (client : next.client = none ∨ next.client = (serving index).client)
    (unrouted : ∀ connection number, next ≠ .routing connection number) :
    Connections parsed opened (Function.update serving index next) := by
  have earlier : ∀ other connection,
      (Function.update serving index next other).client = some connection →
        (serving other).client = some connection := by
    intro other connection serves
    rcases client_update serves with ⟨rfl, new⟩ | ⟨_, old⟩
    · rcases client with none | same
      · rw [none] at new
        cases new
      · rw [← same]
        exact new
    · exact old
  have routings : ∀ other connection number,
      Function.update serving index next other = .routing connection number →
        serving other = .routing connection number := by
    intro other connection number routing
    rcases routing_update routing with ⟨_, new⟩ | ⟨_, old⟩
    · exact (unrouted _ _ new).elim
    · exact old
  constructor
  · exact kept.known
  · intro other connection serves
    exact kept.served other connection (earlier other connection serves)
  · intro first second connection one other
    exact kept.own first second connection (earlier first connection one)
      (earlier second connection other)
  · intro other connection number routing
    exact kept.routed other connection number (routings _ _ _ routing)
  · intro other connection number routing
    exact kept.latest other connection number (routings _ _ _ routing)

/-- A handler takes a new connection. -/
theorem connect (kept : Connections parsed opened serving) (index : handlers) :
    Connections parsed (opened + 1)
      (Function.update serving index (.parsing opened)) := by
  have routings : ∀ other connection number,
      Function.update serving index (.parsing opened) other =
        .routing connection number →
      serving other = .routing connection number := by
    intro other connection number routing
    rcases routing_update routing with ⟨_, new⟩ | ⟨_, old⟩
    · cases new
    · exact old
  constructor
  · intro number connection known
    exact Nat.lt_succ_of_lt (kept.known number connection known)
  · intro other connection serves
    rcases client_update serves with ⟨_, new⟩ | ⟨_, old⟩
    · cases new
      exact Nat.lt_succ_self opened
    · exact Nat.lt_succ_of_lt (kept.served other connection old)
  · intro first second connection one other
    rcases client_update one with ⟨rfl, new⟩ | ⟨_, old⟩
    · rcases client_update other with ⟨rfl, _⟩ | ⟨_, old'⟩
      · rfl
      · cases new
        exact (Nat.lt_irrefl _ (kept.served second _ old')).elim
    · rcases client_update other with ⟨rfl, new⟩ | ⟨_, old'⟩
      · cases new
        exact (Nat.lt_irrefl _ (kept.served first _ old)).elim
      · exact kept.own first second connection old old'
  · intro other connection number routing
    exact kept.routed other connection number (routings _ _ _ routing)
  · intro other connection number routing
    exact kept.latest other connection number (routings _ _ _ routing)

/-- A handler has parsed one more request of its client. -/
theorem parse (kept : Connections parsed opened serving) {index : handlers}
    {request : HttpRequest}
    (parsing : serving index = .parsing request.connection) :
    Connections (parsed ++ [request]) opened (Function.update serving index
      (.routing request.connection parsed.length)) := by
  have mine : (serving index).client = some request.connection :=
    congrArg Serving.client parsing
  have earlier : ∀ other connection,
      (Function.update serving index
        (.routing request.connection parsed.length) other).client =
          some connection →
        (serving other).client = some connection := by
    intro other connection serves
    rcases client_update serves with ⟨rfl, new⟩ | ⟨_, old⟩
    · cases new
      exact mine
    · exact old
  constructor
  · intro number connection known
    rcases connectionOf_append_cases known with old | ⟨_, rfl⟩
    · exact kept.known number connection old
    · exact kept.served index _ mine
  · intro other connection serves
    exact kept.served other connection (earlier other connection serves)
  · intro first second connection one other
    exact kept.own first second connection (earlier first connection one)
      (earlier second connection other)
  · intro other connection number routing
    rcases routing_update routing with ⟨_, new⟩ | ⟨_, old⟩
    · cases new
      exact connectionOf_of_getElem? List.getElem?_concat_length
    · exact connectionOf_append (kept.routed other connection number old)
  · intro other connection number routing last known
    rcases routing_update routing with ⟨_, new⟩ | ⟨ne, old⟩
    · cases new
      rcases connectionOf_append_cases known with old | ⟨rfl, _⟩
      · exact (connectionOf_lt old).le
      · exact Nat.le_refl _
    · rcases connectionOf_append_cases known with earlier | ⟨_, rfl⟩
      · exact kept.latest other connection number old last earlier
      · -- the new request is from the connection of another handler
        have theirs : (serving other).client = some request.connection :=
          congrArg Serving.client old
        exact (ne (kept.own other index _ theirs mine)).elim

omit [DecidableEq handlers] in
/-- A request is routed by one handler at most. -/
theorem routing_unique (kept : Connections parsed opened serving)
    {first second : handlers} {connection connection' number : Nat}
    (one : serving first = .routing connection number)
    (other : serving second = .routing connection' number) : first = second := by
  have known := kept.routed first connection number one
  rw [kept.routed second connection' number other] at known
  cases known
  exact kept.own first second connection (congrArg Serving.client one)
    (congrArg Serving.client other)

end Connections

theorem Reaches.connections (run : Reaches capacity meets service) :
    Connections service.parsed service.opened service.serving := by
  induction run with
  | refl =>
      constructor
      · intro number connection known
        cases known
      · intro index connection serves
        cases serves
      · intro first second connection serves
        cases serves
      · intro index connection number routing
        cases routing
      · intro index connection number routing
        cases routing
  | tail _ step ih =>
      obtain ⟨_, _, step⟩ := step
      cases step with
      | connect => exact ih.connect _
      | parse parsing => exact ih.parse parsing
      | invalid | hangUp | close => exact ih.serve (.inl rfl) (by simp)
      | answer routing | enqueue routing =>
          exact ih.serve (.inr (congrArg Serving.client routing).symm) (by simp)
      | produce producing =>
          exact ih.serve (.inr (congrArg Serving.client producing).symm) (by simp)
      | next deciding =>
          exact ih.serve (.inr (congrArg Serving.client deciding).symm) (by simp)
      | stop | line | disconnect => exact ih

end Service

end Concurrente.WebServer
