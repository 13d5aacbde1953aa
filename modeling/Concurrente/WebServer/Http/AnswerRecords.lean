import Concurrente.WebServer.Http.ClientConnections

/-!
# Which requests are answered

A parsed request is still being routed, or it has been answered by its handler,
or the line has accepted it under a number; and the line's answers are recorded
under the requests they belong to.
-/

namespace Concurrente.WebServer

open Library

/-- The account of the parsed requests. -/
structure Recorded (parsed : List HttpRequest) (exchanges written : List Nat)
    (accepted : Nat) (responded : List Nat) (routed : Nat → Prop) : Prop where
  length : exchanges.length = accepted
  calculated : ∀ number ∈ exchanges,
    ∃ request, parsed[number]? = some request ∧ request.answer ≠ .immediate
  order : ∀ (first second number number' connection : Nat),
    exchanges[first]? = some number → exchanges[second]? = some number' →
    connectionOf parsed number = some connection →
    connectionOf parsed number' = some connection →
    number < number' → first < second
  once : exchanges.Nodup
  progress : ∀ number request, parsed[number]? = some request →
    routed number ∨ number ∈ exchanges ∨
      request.answer = .immediate ∧ number ∈ written
  unanswered : ∀ number, routed number → number ∉ exchanges ∧ number ∉ written
  justified : ∀ number ∈ written,
    (∃ request, parsed[number]? = some request ∧ request.answer = .immediate) ∨
      ∃ exchange ∈ responded, exchanges[exchange]? = some number
  recorded : ∀ exchange ∈ responded, ∀ number : Nat,
    exchanges[exchange]? = some number → number ∈ written

namespace Recorded

variable {parsed : List HttpRequest} {exchanges written responded : List Nat}
  {accepted : Nat} {routed : Nat → Prop}

theorem lt_of_written
    (kept : Recorded parsed exchanges written accepted responded routed)
    {number : Nat} (member : number ∈ written) : number < parsed.length := by
  rcases kept.justified number member with ⟨_, found, _⟩ | ⟨_, _, exchanged⟩
  · exact (List.getElem?_eq_some_iff.mp found).1
  · obtain ⟨_, found, _⟩ :=
      kept.calculated number (List.mem_of_getElem? exchanged)
    exact (List.getElem?_eq_some_iff.mp found).1

theorem lt_of_exchanged
    (kept : Recorded parsed exchanges written accepted responded routed)
    {number : Nat} (member : number ∈ exchanges) : number < parsed.length := by
  obtain ⟨_, found, _⟩ := kept.calculated number member
  exact (List.getElem?_eq_some_iff.mp found).1

/-- A request that was parsed is routed. -/
theorem parse (kept : Recorded parsed exchanges written accepted responded routed)
    (request : HttpRequest) :
    Recorded (parsed ++ [request]) exchanges written accepted responded
      fun number => routed number ∨ number = parsed.length := by
  have old : ∀ {number connection}, number ∈ exchanges →
      connectionOf (parsed ++ [request]) number = some connection →
      connectionOf parsed number = some connection := by
    intro number connection member known
    rcases connectionOf_append_cases known with old | ⟨rfl, _⟩
    · exact old
    · exact (Nat.lt_irrefl _ (kept.lt_of_exchanged member)).elim
  constructor
  · exact kept.length
  · intro number member
    obtain ⟨other, found, calculated⟩ := kept.calculated number member
    refine ⟨other, ?_, calculated⟩
    rw [List.getElem?_append_left (kept.lt_of_exchanged member), found]
  · intro first second number number' connection one other known known' less
    exact kept.order first second number number' connection one other
      (old (List.mem_of_getElem? one) known)
      (old (List.mem_of_getElem? other) known') less
  · exact kept.once
  · intro number other found
    by_cases inside : number < parsed.length
    · rw [List.getElem?_append_left inside] at found
      rcases kept.progress number other found with routing | done
      · exact .inl (.inl routing)
      · exact .inr done
    · obtain ⟨bound, _⟩ := List.getElem?_eq_some_iff.mp found
      rw [List.length_append, List.length_singleton] at bound
      exact .inl (.inr (by omega))
  · intro number routing
    rcases routing with routing | rfl
    · exact kept.unanswered number routing
    · exact ⟨fun member => Nat.lt_irrefl _ (kept.lt_of_exchanged member),
        fun member => Nat.lt_irrefl _ (kept.lt_of_written member)⟩
  · intro number member
    rcases kept.justified number member with ⟨other, found, answered⟩ | exchanged
    · refine .inl ⟨other, ?_, answered⟩
      rw [List.getElem?_append_left (kept.lt_of_written member), found]
    · exact .inr exchanged
  · exact kept.recorded

/-- A request that is routed is answered at once. -/
theorem answer (kept : Recorded parsed exchanges written accepted responded routed)
    {number : Nat} {request : HttpRequest}
    (found : parsed[number]? = some request)
    (immediate : request.answer = .immediate) :
    Recorded parsed exchanges (written ++ [number]) accepted responded
      fun other => routed other ∧ other ≠ number := by
  constructor
  · exact kept.length
  · exact kept.calculated
  · exact kept.order
  · exact kept.once
  · intro other request' found'
    by_cases same : other = number
    · subst same
      rw [found] at found'
      cases found'
      exact .inr (.inr ⟨immediate, by simp⟩)
    · rcases kept.progress other request' found' with routing | exchanged | done
      · exact .inl ⟨routing, same⟩
      · exact .inr (.inl exchanged)
      · exact .inr (.inr ⟨done.1, List.mem_append_left _ done.2⟩)
  · intro other ⟨routing, ne⟩
    obtain ⟨unexchanged, unwritten⟩ := kept.unanswered other routing
    exact ⟨unexchanged, by simp [unwritten, ne]⟩
  · intro other member
    rcases List.mem_append.mp member with old | new
    · exact kept.justified other old
    · rw [List.mem_singleton.mp new]
      exact .inl ⟨request, found, immediate⟩
  · intro exchange answered other exchanged
    exact List.mem_append_left _
      (kept.recorded exchange answered other exchanged)

/-- The line has accepted a request that is routed, the last one of its
connection. -/
theorem enqueue (kept : Recorded parsed exchanges written accepted responded routed)
    {number connection : Nat} {request : HttpRequest}
    (found : parsed[number]? = some request)
    (calculated : request.answer ≠ .immediate) (routing : routed number)
    (own : connectionOf parsed number = some connection)
    (latest : ∀ other, connectionOf parsed other = some connection →
      other ≤ number)
    (known : ∀ exchange ∈ responded, exchange < accepted) :
    Recorded parsed (exchanges ++ [number]) written (accepted + 1) responded
      fun other => routed other ∧ other ≠ number := by
  have fresh := (kept.unanswered number routing).1
  constructor
  · rw [List.length_append, List.length_singleton, kept.length]
  · intro other member
    rcases List.mem_append.mp member with old | new
    · exact kept.calculated other old
    · rw [List.mem_singleton.mp new]
      exact ⟨request, found, calculated⟩
  · intro first second one other connection' there there' same same' less
    rcases getElem?_append_singleton there with old | ⟨rfl, rfl⟩
    · rcases getElem?_append_singleton there' with old' | ⟨rfl, rfl⟩
      · exact kept.order first second one other connection' old old' same same' less
      · exact (List.getElem?_eq_some_iff.mp old).1
    · -- nothing of its connection comes after the last request
      rw [own] at same
      cases same
      exact (Nat.not_lt.mpr (latest other same') less).elim
  · refine List.nodup_append.mpr ⟨kept.once, List.nodup_singleton _, ?_⟩
    intro old member new last same
    rw [same, List.mem_singleton.mp last] at member
    exact fresh member
  · intro other request' found'
    by_cases same : other = number
    · exact .inr (.inl (by simp [same]))
    · rcases kept.progress other request' found' with routing | exchanged | done
      · exact .inl ⟨routing, same⟩
      · exact .inr (.inl (List.mem_append_left _ exchanged))
      · exact .inr (.inr done)
  · intro other ⟨routing, ne⟩
    obtain ⟨unexchanged, unwritten⟩ := kept.unanswered other routing
    exact ⟨by simp [unexchanged, ne], unwritten⟩
  · intro other member
    rcases kept.justified other member with immediate | ⟨exchange, answered, there⟩
    · exact .inl immediate
    · refine .inr ⟨exchange, answered, ?_⟩
      rw [List.getElem?_append_left (List.getElem?_eq_some_iff.mp there).1, there]
  · intro exchange answered other there
    rcases getElem?_append_singleton there with old | ⟨rfl, _⟩
    · exact kept.recorded exchange answered other old
    · exact (Nat.lt_irrefl _ (kept.length ▸ known _ answered)).elim

/-- The responder has answered a request. -/
theorem respond (kept : Recorded parsed exchanges written accepted responded routed)
    {exchange number : Nat} (there : exchanges[exchange]? = some number) :
    Recorded parsed exchanges (written ++ [number]) accepted
      (responded ++ [exchange]) routed := by
  constructor
  · exact kept.length
  · exact kept.calculated
  · exact kept.order
  · exact kept.once
  · intro other request found
    rcases kept.progress other request found with routing | exchanged | done
    · exact .inl routing
    · exact .inr (.inl exchanged)
    · exact .inr (.inr ⟨done.1, List.mem_append_left _ done.2⟩)
  · intro other routing
    obtain ⟨unexchanged, unwritten⟩ := kept.unanswered other routing
    refine ⟨unexchanged, fun member => ?_⟩
    rcases List.mem_append.mp member with old | new
    · exact unwritten old
    · rw [List.mem_singleton.mp new] at unexchanged
      exact unexchanged (List.mem_of_getElem? there)
  · intro other member
    rcases List.mem_append.mp member with old | new
    · rcases kept.justified other old with immediate | ⟨earlier, answered, there⟩
      · exact .inl immediate
      · exact .inr ⟨earlier, List.mem_append_left _ answered, there⟩
    · rw [List.mem_singleton.mp new]
      exact .inr ⟨exchange, by simp, there⟩
  · intro earlier answered other there'
    rcases List.mem_append.mp answered with old | new
    · exact List.mem_append_left _ (kept.recorded earlier old other there')
    · rw [List.mem_singleton.mp new, there] at there'
      cases there'
      exact List.mem_append_right _ (List.mem_singleton_self _)

end Recorded

/-! ## In every run -/

/-- A request that some handler routes. -/
def Routed {handlers : Type} (serving : handlers → Serving) (number : Nat) :
    Prop :=
  ∃ index connection, serving index = .routing connection number

section Routed

variable {handlers : Type} [DecidableEq handlers] {serving : handlers → Serving}
  {index : handlers} {next : Serving}

theorem routed_update
    (before : ∀ connection number, serving index ≠ .routing connection number)
    (after : ∀ connection number, next ≠ .routing connection number) :
    Routed (Function.update serving index next) = Routed serving := by
  funext number
  apply propext
  constructor
  · intro ⟨other, connection, routing⟩
    rcases Service.Connections.routing_update routing with ⟨_, new⟩ | ⟨_, old⟩
    · exact (after _ _ new).elim
    · exact ⟨other, connection, old⟩
  · intro ⟨other, connection, routing⟩
    refine ⟨other, connection, ?_⟩
    rw [Function.update_of_ne, routing]
    rintro rfl
    exact before _ _ routing

theorem routed_parse {connection number : Nat}
    (parsing : serving index = .parsing connection) :
    Routed (Function.update serving index (.routing connection number)) =
      fun other => Routed serving other ∨ other = number := by
  funext other
  apply propext
  constructor
  · intro ⟨handler, client, routing⟩
    rcases Service.Connections.routing_update routing with ⟨_, new⟩ | ⟨_, old⟩
    · cases new
      exact .inr rfl
    · exact .inl ⟨handler, client, old⟩
  · intro routed
    rcases routed with ⟨handler, client, routing⟩ | rfl
    · refine ⟨handler, client, ?_⟩
      rw [Function.update_of_ne, routing]
      rintro rfl
      rw [parsing] at routing
      cases routing
    · exact ⟨index, connection, Function.update_self ..⟩

theorem routed_done {parsed : List HttpRequest} {opened connection number : Nat}
    (connections : Service.Connections parsed opened serving)
    (routing : serving index = .routing connection number)
    (after : ∀ connection number, next ≠ .routing connection number) :
    Routed (Function.update serving index next) =
      fun other => Routed serving other ∧ other ≠ number := by
  funext other
  apply propext
  constructor
  · intro ⟨handler, client, there⟩
    rcases Service.Connections.routing_update there with ⟨_, new⟩ | ⟨ne, old⟩
    · exact (after _ _ new).elim
    · refine ⟨⟨handler, client, old⟩, ?_⟩
      rintro rfl
      exact ne (connections.routing_unique old routing)
  · intro ⟨⟨handler, client, there⟩, ne⟩
    refine ⟨handler, client, ?_⟩
    rw [Function.update_of_ne, there]
    rintro rfl
    rw [routing] at there
    cases there
    exact ne rfl

end Routed

namespace Service

variable {config : Configuration} {capacity : Channel config → Option Nat}
  {meets : Actor config → Service config → Prop} {service : Service config}

/-- The requests that were answered are known to the line. -/
theorem Reaches.responded_lt (run : Reaches capacity meets service) :
    ∀ exchange ∈ service.line.store.responded,
      exchange < service.line.store.accepted.length := by
  intro exchange answered
  have kept := config.requestsKept run.line
  exact kept.known exchange (kept.responded exchange answered)

/-- What the responder answers in a step of another thread than a handler. -/
theorem Reaches.answers (run : Reaches capacity meets service)
    (length : service.exchanges.length = service.line.store.accepted.length)
    {node : Node config} {after : config.State}
    (step : Network.Step (config.network capacity) node service.line after) :
    let answers :=
      (after.store.responded.drop service.line.store.responded.length).map
        fun number => service.exchanges.getD number 0
    after.store.responded = service.line.store.responded ∧ answers = [] ∨
      ∃ exchange number numbers,
        after.store.responded = service.line.store.responded ++ [exchange] ∧
        answers = [number] ∧ service.exchanges[exchange]? = some number ∧
        config.handedRequests service.line.sent =
          service.line.store.responded ++ exchange :: numbers := by
  rcases Configuration.answerStep run.line step with
    same | ⟨exchange, numbers, grown, handed⟩
  · left
    rw [same, List.drop_length]
    exact ⟨rfl, rfl⟩
  · right
    have known : exchange < service.exchanges.length := by
      rw [length]
      apply (config.requestsKept run.line).known
      rw [handed]
      exact List.mem_append_right _ List.mem_cons_self
    have there := List.getElem?_eq_getElem known
    refine ⟨exchange, _, numbers, grown, ?_, there, handed⟩
    rw [grown, List.drop_left, List.map_singleton, List.getD_eq_getElem?_getD,
      there]
    rfl

/-- The account of the requests is kept in every run. -/
theorem Reaches.recorded (run : Reaches capacity meets service) :
    Recorded service.parsed service.exchanges service.written
      service.line.store.accepted.length service.line.store.responded
      (Routed service.serving) := by
  induction run with
  | refl =>
      have unrouted : ∀ number, ¬ Routed (start config).serving number := by
        intro number ⟨_, _, routing⟩
        cases routing
      constructor
      · rfl
      · intro number member
        cases member
      · intro first second number number' connection one
        cases one
      · exact .nil
      · intro number request found
        cases found
      · intro number routing
        exact (unrouted number routing).elim
      · intro number member
        cases member
      · intro exchange answered
        cases answered
  | @tail before after reached step ih =>
      have run : Reaches capacity meets before := reached
      obtain ⟨_, _, step⟩ := step
      cases step with
      | connect idle =>
          rw [routed_update (by simp [idle]) (by simp)]
          exact ih
      | invalid parsing | hangUp parsing =>
          rw [routed_update (by simp [parsing]) (by simp)]
          exact ih
      | next deciding | close deciding =>
          rw [routed_update (by simp [deciding]) (by simp)]
          exact ih
      | parse parsing =>
          rw [routed_parse parsing]
          exact ih.parse _
      | answer routing found immediate =>
          rw [routed_done run.connections routing (by simp)]
          exact ih.answer found immediate
      | enqueue routing found calculated _ accepts =>
          obtain ⟨rfl, rfl⟩ := HttpConnectionHandler.consume_accept accepts
          have connections := run.connections
          rw [routed_done connections routing (by simp), List.length_append]
          exact ih.enqueue found (by simp [calculated]) ⟨_, _, routing⟩
            (connections.routed _ _ _ routing) (connections.latest _ _ _ routing)
            run.responded_lt
      | produce producing sending step =>
          rw [routed_update (by simp [producing]) (by simp),
            store_of_producing sending step]
          exact ih
      | stop _ _ stops =>
          rw [stops]
          exact ih
      | line other step =>
          rw [Configuration.accepted_eq run.line other step]
          rcases run.answers ih.length step with
            ⟨same, none⟩ | ⟨exchange, number, numbers, grown, one, there, _⟩
          · rw [none, same, List.append_nil]
            exact ih
          · rw [one, grown]
            exact ih.respond there
      | disconnect => exact ih

/-- The requests that were enqueued for the responder are known here. -/
theorem Reaches.handed_lt (run : Reaches capacity meets service) {exchange : Nat}
    (handed : exchange ∈ config.handedRequests service.line.sent) :
    exchange < service.exchanges.length := by
  rw [run.recorded.length]
  exact (config.requestsKept run.line).known exchange handed

end Service

end Concurrente.WebServer
