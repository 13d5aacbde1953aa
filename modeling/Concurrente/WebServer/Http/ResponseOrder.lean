import Concurrente.WebServer.Http.ServiceSchedule

/-!
# The order of the responses

A handler goes on with the next request of its client while the line works on
the earlier ones.  A client gets its responses in the order of its requests when
each finds the line nearly done with the earlier ones of its connection: with
their objects enqueued for the responder, or answered where the handler answers
the new one itself.
-/

namespace Concurrente.WebServer

open Library

section Lists

variable {taken members written : List Nat} {next count : Nat}

/-- A list that takes the members in their order goes on with the smallest one
that is left. -/
theorem prefix_concat (sorted : members.Pairwise (· < ·))
    (kept : taken <+: members) (member : next ∈ members) (fresh : next ∉ taken)
    (smaller : ∀ other ∈ members, other < next → other ∈ taken) :
    taken ++ [next] <+: members := by
  obtain ⟨rest, rfl⟩ := kept
  obtain ⟨_, ordered, apart⟩ := List.pairwise_append.mp sorted
  have left := (List.mem_append.mp member).resolve_left fresh
  cases rest with
  | nil => cases left
  | cons first rest =>
      obtain rfl : next = first := by
        rcases List.mem_cons.mp left with same | beyond
        · exact same
        · have less := (List.pairwise_cons.mp ordered).1 next beyond
          have earlier := smaller first
            (List.mem_append_right _ List.mem_cons_self) less
          have absurd := apart first earlier first List.mem_cons_self
          exact (Nat.lt_irrefl _ absurd).elim
      exact ⟨rest, List.append_assoc ..⟩

theorem filter_prefix_concat {belongs : Nat → Prop} [DecidablePred belongs]
    (kept : written.filter belongs <+: (List.range count).filter belongs)
    (inside : next < count) (fresh : next ∉ written)
    (smaller : ∀ other < next, belongs next → belongs other → other ∈ written) :
    (written ++ [next]).filter belongs <+: (List.range count).filter belongs := by
  rw [List.filter_append]
  by_cases mine : belongs next
  · rw [List.filter_cons_of_pos (by simp [mine]), List.filter_nil]
    apply prefix_concat (List.pairwise_lt_range.filter _) kept
    · simp [inside, mine]
    · intro member
      exact fresh (List.mem_filter.mp member).1
    · intro other member less
      have theirs : belongs other := by
        simpa using (List.mem_filter.mp member).2
      exact List.mem_filter.mpr
        ⟨smaller other less mine theirs, (List.mem_filter.mp member).2⟩
  · rw [List.filter_cons_of_neg (by simp [mine]), List.filter_nil,
      List.append_nil]
    exact kept

end Lists

namespace Service

variable {config : Configuration}

/-- The requests that were parsed from a connection, in order. -/
def parsedOn (service : Service config) (connection : Nat) : List Nat :=
  (List.range service.parsed.length).filter fun number =>
    connectionOf service.parsed number = some connection

/-- The requests of a connection whose responses were written, in order. -/
def writtenOn (service : Service config) (connection : Nat) : List Nat :=
  service.written.filter fun number =>
    connectionOf service.parsed number = some connection

/-- When a handler routes a request, the line has enqueued the earlier ones of its
connection for the responder, and has answered them if the handler answers this
one itself. -/
def Unhurried (actor : Actor config) (service : Service config) : Prop :=
  ∀ taken ∈ service.routing actor, ∀ exchange < service.exchanges.length,
    service.clientOf exchange = some taken.1 →
      exchange ∈ config.handedRequests service.line.sent ∧
        (taken.2.answer = .immediate → exchange ∈ service.line.store.responded)

instance (actor : Actor config) : DecidablePred (Unhurried actor) :=
  fun _ => inferInstanceAs (Decidable (∀ taken ∈ _, ∀ exchange < _, _ → _))

/-- Before a request was accepted the earlier ones of its connection were handed
over. -/
def HandedBefore (service : Service config) : Prop :=
  ∀ earlier exchange connection, earlier < exchange →
    service.clientOf exchange = some connection →
    service.clientOf earlier = some connection →
      earlier ∈ config.handedRequests service.line.sent

/-- The requests of a connection are handed over in the order in which they were
accepted. -/
def HandedInOrder (service : Service config) : Prop :=
  ∀ taken exchange earlier connection,
    taken ++ [exchange] <+: config.handedRequests service.line.sent →
    earlier < exchange → service.clientOf exchange = some connection →
    service.clientOf earlier = some connection → earlier ∈ taken

variable {capacity : Channel config → Option Nat}
  {meets : Actor config → Service config → Prop} {service after : Service config}

theorem clientOf_lt {exchange connection : Nat}
    (known : service.clientOf exchange = some connection) :
    exchange < service.exchanges.length := by
  obtain ⟨_, there, _⟩ := clientOf_eq_some.mp known
  exact (List.getElem?_eq_some_iff.mp there).1

theorem clientOf_parse (run : Reaches capacity meets service) (request : HttpRequest)
    {exchange : Nat} (inside : exchange < service.exchanges.length) :
    (service.exchanges[exchange]?.bind
        (connectionOf (service.parsed ++ [request]))) =
      service.clientOf exchange := by
  have there := List.getElem?_eq_getElem inside
  have known := run.recorded.lt_of_exchanged (List.getElem_mem inside)
  simp only [clientOf, there, Option.bind_some, connectionOf]
  rw [List.getElem?_append_left known]

theorem HandedBefore.of_clientOf (kept : HandedBefore service)
    (handed : config.handedRequests service.line.sent ⊆
      config.handedRequests after.line.sent)
    (length : after.exchanges.length = service.exchanges.length)
    (clients : ∀ exchange < service.exchanges.length,
      after.clientOf exchange = service.clientOf exchange) :
    HandedBefore after := by
  intro earlier exchange connection less own theirs
  have inside := clientOf_lt own
  rw [length] at inside
  rw [clients exchange inside] at own
  rw [clients earlier (less.trans inside)] at theirs
  exact handed (kept earlier exchange connection less own theirs)

theorem HandedBefore.step {actor : Actor config}
    (run : Reaches capacity meets service) (kept : HandedBefore service)
    (unhurried : Unhurried actor service)
    (step : Step capacity service actor after) : HandedBefore after := by
  have grows : ∀ {node : Node config} {line : config.State},
      Network.Step (config.network capacity) node service.line line →
      config.handedRequests service.line.sent ⊆ config.handedRequests line.sent := by
    intro node line step
    rcases Configuration.handStep run.line trivial step with
      same | ⟨_, _, _, _, _, _, grown⟩
    · rw [same]
      exact List.Subset.refl _
    · rw [grown]
      exact List.subset_append_left _ _
  cases step with
  | connect | invalid | hangUp | answer | next | close | disconnect => exact kept
  | parse =>
      exact kept.of_clientOf (List.Subset.refl _) rfl fun exchange inside =>
        clientOf_parse run _ inside
  | produce _ _ step | stop _ step | line _ step =>
      exact kept.of_clientOf (grows step) rfl fun _ _ => rfl
  | @enqueue index client number request _ _ _ _ _ routing found calculated =>
      have clients : ∀ {exchange}, exchange < service.exchanges.length →
          ((service.exchanges ++ [number])[exchange]?.bind
            (connectionOf service.parsed)) = service.clientOf exchange := by
        intro exchange inside
        rw [List.getElem?_append_left inside, clientOf]
      intro earlier exchange connection less own theirs
      obtain ⟨other, there, known⟩ := clientOf_eq_some.mp own
      rcases getElem?_append_singleton there with old | ⟨rfl, rfl⟩
      · have inside := (List.getElem?_eq_some_iff.mp old).1
        rw [clientOf, clients inside] at own
        rw [clientOf, clients (less.trans inside)] at theirs
        exact kept earlier exchange connection less own theirs
      · -- the request that is accepted now
        rw [clientOf, clients less] at theirs
        have same := run.connections.routed index client other routing
        change connectionOf service.parsed other = some connection at known
        rw [same] at known
        cases known
        exact (unhurried (client, request) (routing_handler routing found) earlier
          less theirs).1

/-- What was handed over stays in order when the requests stay the same. -/
theorem HandedInOrder.of_clientOf (run : Reaches capacity meets service)
    (kept : HandedInOrder service)
    (handed : config.handedRequests after.line.sent =
      config.handedRequests service.line.sent)
    (clients : ∀ exchange < service.exchanges.length,
      after.clientOf exchange = service.clientOf exchange) :
    HandedInOrder after := by
  intro taken exchange earlier connection taking less own theirs
  rw [handed] at taking
  have inside : exchange < service.exchanges.length :=
    run.handed_lt (taking.subset (by simp))
  rw [clients exchange inside] at own
  rw [clients earlier (less.trans inside)] at theirs
  exact kept taken exchange earlier connection taking less own theirs

theorem HandedInOrder.step {actor : Actor config}
    (run : Reaches capacity meets service) (kept : HandedInOrder service)
    (handed : HandedBefore service)
    (step : Step capacity service actor after) : HandedInOrder after := by
  cases step with
  | connect | invalid | hangUp | answer | next | close | disconnect => exact kept
  | parse =>
      exact kept.of_clientOf run rfl fun exchange inside =>
        clientOf_parse run _ inside
  | enqueue =>
      refine kept.of_clientOf run rfl fun exchange inside => ?_
      simp only [clientOf]
      rw [List.getElem?_append_left inside]
  | produce _ _ step | stop _ step =>
      refine kept.of_clientOf run ?_ fun _ _ => rfl
      rcases Configuration.handStep run.line trivial step with
        same | ⟨_, _, _, assembler, _⟩
      · exact same
      · cases assembler
  | line other step =>
      rcases Configuration.handStep run.line trivial step with
        same | ⟨_, _, _, _, _, _, grown⟩
      · exact kept.of_clientOf run same fun _ _ => rfl
      · intro taken exchange earlier connection taking less own theirs
        change _ <+: config.handedRequests _ at taking
        rw [grown, List.prefix_concat_iff] at taking
        rcases taking with last | old
        · obtain ⟨rfl, rfl⟩ := List.append_singleton_inj.mp last
          exact handed earlier exchange connection less own theirs
        · exact kept taken exchange earlier connection old less own theirs

theorem Reaches.handedInOrder (run : Reaches capacity Unhurried service) :
    HandedBefore service ∧ HandedInOrder service := by
  induction run with
  | refl =>
      constructor
      · intro earlier exchange connection less own
        cases own
      · intro taken exchange earlier connection taking less own
        cases own
  | tail reached step ih =>
      obtain ⟨_, unhurried, step⟩ := step
      exact ⟨ih.1.step reached unhurried step, ih.2.step reached ih.1 step⟩

/-- An earlier request of a connection has its response when the line has
answered it or has never accepted it. -/
theorem Reaches.earlier_written (run : Reaches capacity meets service)
    {number other connection : Nat} (less : other < number)
    (own : connectionOf service.parsed number = some connection)
    (theirs : connectionOf service.parsed other = some connection)
    (answered : ∀ earlier, service.exchanges[earlier]? = some other →
      earlier ∈ service.line.store.responded) : other ∈ service.written := by
  have recorded := run.recorded
  have found := List.getElem?_eq_getElem (connectionOf_lt theirs)
  rcases recorded.progress other _ found with
    ⟨index, client, routing⟩ | accepted | ⟨_, written⟩
  · -- nothing of the connection comes after a request that is routed
    have client_eq := run.connections.routed index client other routing
    rw [theirs] at client_eq
    cases client_eq
    have latest := run.connections.latest index connection other routing number own
    exact (Nat.not_le.mpr less latest).elim
  · obtain ⟨earlier, there⟩ := List.mem_iff_getElem?.mp accepted
    exact recorded.recorded earlier (answered earlier there) other there
  · exact written

/-- A request that the responder answers now has no response yet. -/
theorem Reaches.not_written (run : Reaches capacity meets service)
    {exchange number : Nat} {numbers : List Nat}
    (there : service.exchanges[exchange]? = some number)
    (handed : config.handedRequests service.line.sent =
      service.line.store.responded ++ exchange :: numbers) :
    number ∉ service.written := by
  have recorded := run.recorded
  have inside := (List.getElem?_eq_some_iff.mp there).1
  intro member
  rcases recorded.justified number member with
    ⟨request, found, immediate⟩ | ⟨earlier, answered, there'⟩
  · obtain ⟨request', found', calculated⟩ :=
      recorded.calculated number (List.mem_of_getElem? there)
    rw [found] at found'
    cases found'
    exact calculated immediate
  · obtain rfl : exchange = earlier :=
      (List.getElem?_inj inside recorded.once).mp (there.trans there'.symm)
    have once := (config.requestsKept run.line).once
    rw [handed] at once
    obtain ⟨_, _, apart⟩ := List.nodup_append.mp once
    exact apart exchange answered exchange List.mem_cons_self rfl

/-- A request that was parsed has no response yet. -/
theorem Reaches.order_parse (run : Reaches capacity meets service)
    (request : HttpRequest) {connection : Nat}
    (kept : service.writtenOn connection <+: service.parsedOn connection) :
    (service.written.filter fun number =>
        connectionOf (service.parsed ++ [request]) number = some connection) <+:
      (List.range (service.parsed ++ [request]).length).filter fun number =>
        connectionOf (service.parsed ++ [request]) number = some connection := by
  have same : ∀ number < service.parsed.length,
      connectionOf (service.parsed ++ [request]) number =
        connectionOf service.parsed number := by
    intro number inside
    rw [connectionOf, List.getElem?_append_left inside, connectionOf]
  have written : (service.written.filter fun number =>
      connectionOf (service.parsed ++ [request]) number = some connection) =
        service.writtenOn connection := by
    refine List.filter_congr fun number member => ?_
    rw [same number (run.recorded.lt_of_written member)]
  have parsed : ((List.range service.parsed.length).filter fun number =>
      connectionOf (service.parsed ++ [request]) number = some connection) =
        service.parsedOn connection := by
    refine List.filter_congr fun number member => ?_
    rw [same number (List.mem_range.mp member)]
  rw [written, List.length_append, List.length_singleton, List.range_succ,
    List.filter_append, parsed]
  exact kept.trans (List.prefix_append _ _)

/-- In a run without hurry each client gets its responses in the order of its
requests. -/
theorem written_in_order (run : Reaches capacity Unhurried service)
    (connection : Nat) :
    service.writtenOn connection <+: service.parsedOn connection := by
  induction run with
  | refl => exact List.prefix_refl _
  | @tail before after reached step ih =>
      have run : Reaches capacity Unhurried before := reached
      have recorded := run.recorded
      obtain ⟨actor, unhurried, step⟩ := step
      cases step with
      | connect | invalid | hangUp | enqueue | produce | next | close | stop
      | disconnect => exact ih
      | parse => exact run.order_parse _ ih
      | @answer index client number request routing found immediate =>
          have own := run.connections.routed index client number routing
          have fresh := (recorded.unanswered number ⟨index, client, routing⟩).2
          refine filter_prefix_concat ih (connectionOf_lt own) fresh ?_
          intro other less mine theirs
          rw [own] at mine
          cases mine
          refine run.earlier_written less own theirs fun earlier there => ?_
          exact (unhurried (connection, request) (routing_handler routing found)
            earlier (List.getElem?_eq_some_iff.mp there).1
            (clientOf_eq_some.mpr ⟨other, there, theirs⟩)).2 immediate
      | line other step =>
          rcases run.answers recorded.length step with
            ⟨_, none⟩ | ⟨exchange, number, numbers, _, one, there, handed⟩
          · simp only [writtenOn, none, List.append_nil]
            exact ih
          · simp only [writtenOn, one]
            have inside := recorded.lt_of_exchanged (List.mem_of_getElem? there)
            refine filter_prefix_concat ih inside
              (run.not_written there handed) ?_
            intro other less mine theirs
            refine run.earlier_written less mine theirs fun earlier there' => ?_
            have ordered := recorded.order earlier exchange other number connection
              there' there theirs mine less
            exact run.handedInOrder.2 _ exchange earlier connection
              ⟨numbers, by rw [handed, List.append_assoc]; rfl⟩ ordered
              (clientOf_eq_some.mpr ⟨number, there, mine⟩)
              (clientOf_eq_some.mpr ⟨other, there', theirs⟩)

/-- The second request comes while the first one waits for the responder, and the
third one when both are answered. -/
theorem written_in_order_sample :
    ∃ service : Service sampleConfiguration,
      Reaches (fun _ => some 1) Unhurried service ∧ service.writtenOn 0 = [0, 1, 2] ∧
      service.exchanges = [0, 1] ∧
      service.writtenOn 0 <+: service.parsedOn 0 := by
  have checked : ∃ service : Service sampleConfiguration,
      Reaches (fun _ => some 1) Unhurried service ∧
        (service.writtenOn 0 = [0, 1, 2] ∧ service.exchanges = [0, 1]) := by
    apply @Reaches.exists_of_exec _ _ _ _ _ _ (.connect only ::
      askTurns "HTTP/1.1".toList [7] 4096 ++ calculateTurns ++
      askTurns "HTTP/1.1".toList [5] 8192 ++ respondTurns ++ calculateTurns ++
      respondTurns ++ serveTurns "HTTP/1.1".toList)
    decide +kernel
  obtain ⟨service, run, written, exchanges⟩ := checked
  exact ⟨service, run, written, exchanges, written_in_order run 0⟩

/-- The handler answers a later request of the connection before the line has
answered the first one. -/
theorem written_out_of_order :
    ∃ service : Service sampleConfiguration,
      Reaches (fun _ => some 1) (fun _ _ => True) service ∧
      service.parsed =
        [⟨0, "HTTP/1.1".toList, .calculated 0 [7]⟩,
          ⟨0, "HTTP/1.1".toList, .immediate⟩] ∧
      service.writtenOn 0 = [1, 0] ∧
      ¬ service.writtenOn 0 <+: service.parsedOn 0 := by
  apply @Reaches.exists_of_exec _ _ _ _ _ _ (.connect only ::
    askTurns "HTTP/1.1".toList [7] 4096 ++ serveTurns "HTTP/1.1".toList ++
    calculateTurns ++ respondTurns)
  decide +kernel

end Service

end Concurrente.WebServer
