import Concurrente.WebServer.Http.WireFormat
import Concurrente.WebServer.Network.Sending

/-!
# Handing units over

`Distributor::consume` sends every unit to a worker chosen at random and falls
back to the local calculators when that throws.  Sending throws only when
`Socket::send` returns false, so what happens to a unit depends on every
outcome of `::send`.
-/

namespace Concurrente.WebServer

/-- Names a connection of the pool. -/
abbrev ConnectionId := Nat

/-- `WorkerConnections::getRandomWorkerConnection`, for the number that
`Util::random` draws. -/
def WorkerConnections.getRandomWorkerConnection
    (connections : List ConnectionId) (random : Nat) :
    Except StdException ConnectionId :=
  if nonempty : 0 < connections.length then
    .ok (connections.get
      ⟨random % connections.length, Nat.mod_lt random nonempty⟩)
  else .error (.runtimeError "no worker connections available".toList)

namespace Distributor

/-- The sockets the distributor writes to and the queue of the local
calculators. -/
structure State where
  sockets : ConnectionId → SharedSocket
  producingQueue : List DataUnit

/-- One call of `consume`: its unit, the objects that are live, the
connections in the pool, the random number and the outcomes of `::send`. -/
structure Delivery where
  unit : DataUnit
  heap : Heap
  connections : List ConnectionId
  random : Nat
  outcomes : List SendOutcome

/-- The connection a delivery chooses. -/
def Delivery.connection (delivery : Delivery) :
    Except StdException ConnectionId :=
  WorkerConnections.getRandomWorkerConnection delivery.connections
    delivery.random

/-- The serialized unit, by the application the object names. -/
def serializedUnit (applications : List HttpApp) (delivery : Delivery) :
    Except Fault Text :=
  match delivery.heap delivery.unit.concurrentData with
  | none => .error .dangling
  | some data =>
      match applications[data.appIndex.toNat]? with
      | none => .error .dangling
      | some app => app.serializeRequest delivery.heap delivery.unit

/-- `Consumer::produce` of the distributor. -/
def State.produce (state : State) (unit : DataUnit) : State :=
  { state with producingQueue := state.producingQueue ++ [unit] }

/-- `Distributor::consume`. -/
def consume (applications : List HttpApp) (state : State)
    (delivery : Delivery) : Except Fault State :=
  match delivery.connection with
  | .error _ => .ok (state.produce delivery.unit)
  | .ok connection =>
      match serializedUnit applications delivery with
      | .error (.exception _) => .ok (state.produce delivery.unit)
      | .error fault => .error fault
      | .ok text =>
          let (sent, socket) :=
            ((state.sockets connection).insert text).send delivery.outcomes
          let state :=
            { state with
              sockets := Function.update state.sockets connection socket }
          .ok (if sent then state else state.produce delivery.unit)

/-- What happens to the sockets of the distributor: it consumes a unit, or
the thread that reads a connection finds it closed. -/
inductive Event where
  | consume (delivery : Delivery)
  | peerDisconnected (connection : ConnectionId)

/-- The calls of `consume` in a run, each with the states before and after
it. -/
def calls (applications : List HttpApp) :
    State → List Event → List (State × Delivery × State)
  | _, [] => []
  | state, .peerDisconnected connection :: events =>
      calls applications
        { state with
          sockets := Function.update state.sockets connection
            (state.sockets connection).close }
        events
  | state, .consume delivery :: events =>
      match consume applications state delivery with
      | .error _ => []
      | .ok after =>
          (state, delivery, after) :: calls applications after events

/-! ## Where a unit ends -/

/-- All bytes of the unit went to its connection and it was not produced, or
it was produced and the output buffer of its connection holds none of them. -/
def Placed (applications : List HttpApp) (before : State) (delivery : Delivery)
    (after : State) : Prop :=
  (∃ connection text, delivery.connection = .ok connection ∧
      serializedUnit applications delivery = .ok text ∧
      (after.sockets connection).transmitted =
        (before.sockets connection).transmitted ++ text ∧
      after.producingQueue = before.producingQueue) ∨
    (after.producingQueue = before.producingQueue ++ [delivery.unit] ∧
      ∀ connection, delivery.connection = .ok connection →
        (after.sockets connection).output = [])

/-- The pool is empty, or the connection chosen is open and the calls of
`::send` accept the whole text. -/
def SendSucceeds (applications : List HttpApp) (before : State)
    (delivery : Delivery) : Prop :=
  ∀ connection text, delivery.connection = .ok connection →
    serializedUnit applications delivery = .ok text →
    0 ≤ (before.sockets connection).socketFileDescriptor ∧
      acceptsAll text.length delivery.outcomes = true

/-- The unit names a query of a live object of a registered application. -/
def Distributable (applications : List HttpApp) (delivery : Delivery) : Prop :=
  ∃ data query app,
    delivery.heap delivery.unit.concurrentData = some data ∧
    data.queries[delivery.unit.resultIndex.toNat]? = some query ∧
    applications[data.appIndex.toNat]? = some (.calc app)

theorem serializedUnit_eq {applications : List HttpApp} {delivery : Delivery}
    (distributable : Distributable applications delivery) :
    ∃ text, serializedUnit applications delivery = .ok text ∧ text ≠ [] ∧
      text.length < 2 ^ 64 := by
  obtain ⟨data, query, app, live, present, registered⟩ := distributable
  have short :=
    CalcWebApp.length_requestText_le data.appIndex delivery.unit query
  refine ⟨_, ?_, CalcWebApp.requestText_ne_nil data.appIndex delivery.unit query,
    by omega⟩
  simp [serializedUnit, live, registered, HttpApp.serializeRequest,
    CalcWebApp.serializeRequest_eq live present]

section Consume

variable {applications : List HttpApp} {before : State} {delivery : Delivery}
  {connection : ConnectionId} {text : Text}

/-- The state after a serialized unit was sent. -/
def afterSend (before : State) (delivery : Delivery)
    (connection : ConnectionId) (text : Text) : State :=
  let sent := ((before.sockets connection).insert text).send delivery.outcomes
  let state :=
    { before with
      sockets := Function.update before.sockets connection sent.2 }
  if sent.1 then state else state.produce delivery.unit

theorem consume_eq_afterSend (chosen : delivery.connection = .ok connection)
    (serialized : serializedUnit applications delivery = .ok text) :
    consume applications before delivery =
      .ok (afterSend before delivery connection text) := by
  simp [consume, chosen, serialized, afterSend]

theorem sockets_afterSend :
    (afterSend before delivery connection text).sockets =
      Function.update before.sockets connection
        (((before.sockets connection).insert text).send delivery.outcomes).2 := by
  unfold afterSend
  dsimp only
  split <;> rfl

theorem producingQueue_afterSend :
    (afterSend before delivery connection text).producingQueue =
      if (((before.sockets connection).insert text).send delivery.outcomes).1
      then before.producingQueue
      else before.producingQueue ++ [delivery.unit] := by
  unfold afterSend
  dsimp only
  split <;> rfl

/-- A successful `send` transmits the unit and flushes the buffer. -/
theorem afterSend_of_succeeds
    (flushed : ∀ connection, (before.sockets connection).output = [])
    (nonempty : text ≠ []) (short : text.length < 2 ^ 64)
    (openSocket : 0 ≤ (before.sockets connection).socketFileDescriptor)
    (accepted : acceptsAll text.length delivery.outcomes = true) :
    ((afterSend before delivery connection text).sockets
        connection).transmitted =
        (before.sockets connection).transmitted ++ text ∧
      (afterSend before delivery connection text).producingQueue =
        before.producingQueue ∧
      ∀ other,
        ((afterSend before delivery connection text).sockets other).output =
          [] := by
  have output : ((before.sockets connection).insert text).output = text := by
    simp [SharedSocket.insert, flushed connection]
  have sent :
      ((before.sockets connection).insert text).send delivery.outcomes = _ :=
    SharedSocket.send_of_acceptsAll (by rwa [output]) (by rwa [output])
      openSocket (by rwa [output])
  rw [sockets_afterSend, producingQueue_afterSend, sent]
  refine ⟨?_, rfl, ?_⟩
  · simp [SharedSocket.insert, flushed connection]
  · intro other
    by_cases same : other = connection
    · subst same
      simp
    · simp [Function.update_of_ne same, flushed other]

/-- After a failed `send` the unit is produced while its bytes stay in the
buffer, or it is not produced although its bytes were not all transmitted. -/
theorem not_placed_afterSend
    (flushed : ∀ connection, (before.sockets connection).output = [])
    (chosen : delivery.connection = .ok connection)
    (serialized : serializedUnit applications delivery = .ok text)
    (nonempty : text ≠ [])
    (failed : (before.sockets connection).socketFileDescriptor < 0 ∨
      acceptsAll text.length delivery.outcomes = false) :
    ¬ Placed applications before delivery
      (afterSend before delivery connection text) := by
  have output : ((before.sockets connection).insert text).output = text := by
    simp [SharedSocket.insert, flushed connection]
  have sent := @SharedSocket.send_of_not_acceptsAll
    ((before.sockets connection).insert text) delivery.outcomes
    (by rwa [output]) (by rwa [output])
  rw [output] at sent
  unfold Placed
  rw [sockets_afterSend, producingQueue_afterSend, chosen, serialized]
  rintro (⟨_, _, ⟨rfl⟩, ⟨rfl⟩, transmitted, produced⟩ | ⟨produced, empty⟩)
  · rcases sent with ⟨reported, _⟩ | ⟨_, accepted, fewer, passed⟩
    · simp [reported] at produced
    · rw [Function.update_self, passed] at transmitted
      have same := List.append_cancel_left transmitted
      simp [same] at fewer
  · rcases sent with ⟨_, kept⟩ | ⟨reported, _⟩
    · have flushedAfter := empty connection rfl
      rw [Function.update_self, kept] at flushedAfter
      exact nonempty flushedAfter
    · simp [reported] at produced

/-- With empty output buffers, one call of `consume` returns, places its unit
exactly when sending succeeds, and then leaves the buffers empty. -/
theorem consume_placed_iff
    (flushed : ∀ connection, (before.sockets connection).output = [])
    (distributable : Distributable applications delivery) :
    ∃ after, consume applications before delivery = .ok after ∧
      (Placed applications before delivery after ↔
        SendSucceeds applications before delivery) ∧
      (SendSucceeds applications before delivery →
        ∀ connection, (after.sockets connection).output = []) := by
  obtain ⟨text, serialized, nonempty, short⟩ := serializedUnit_eq distributable
  cases chosen : delivery.connection with
  | error error =>
      refine ⟨before.produce delivery.unit, by simp [consume, chosen], ?_, ?_⟩
      · simp [Placed, SendSucceeds, chosen, State.produce]
      · intro _ connection
        exact flushed connection
  | ok connection =>
      refine ⟨_, consume_eq_afterSend chosen serialized, ?_, ?_⟩
      · constructor
        · intro placed
          by_contra fails
          refine not_placed_afterSend flushed chosen serialized nonempty ?_ placed
          by_contra works
          simp only [not_or, Bool.not_eq_false] at works
          refine fails fun other text' chosen' serialized' => ?_
          cases chosen.symm.trans chosen'
          cases serialized.symm.trans serialized'
          exact ⟨Int.not_lt.mp works.1, works.2⟩
        · intro succeeds
          obtain ⟨openSocket, accepted⟩ := succeeds _ _ chosen serialized
          obtain ⟨transmitted, produced, _⟩ := afterSend_of_succeeds flushed
            nonempty short openSocket accepted
          exact .inl ⟨connection, text, chosen, serialized, transmitted, produced⟩
      · intro succeeds
        obtain ⟨openSocket, accepted⟩ := succeeds _ _ chosen serialized
        exact (afterSend_of_succeeds flushed nonempty short openSocket accepted).2.2

end Consume

/-- Every unit of a run ends in exactly one place if and only if every unit
meets an empty pool or an open connection whose `::send` accepts it whole. -/
theorem calls_placed_iff {applications : List HttpApp} {start : State}
    (flushed : ∀ connection, (start.sockets connection).output = [])
    {events : List Event}
    (distributable : ∀ delivery, .consume delivery ∈ events →
      Distributable applications delivery) :
    (∀ call ∈ calls applications start events,
        Placed applications call.1 call.2.1 call.2.2) ↔
      ∀ call ∈ calls applications start events,
        SendSucceeds applications call.1 call.2.1 := by
  induction events generalizing start with
  | nil => simp [calls]
  | cons event events ih =>
      have later : ∀ delivery, .consume delivery ∈ events →
          Distributable applications delivery :=
        fun delivery member => distributable delivery (.tail _ member)
      cases event with
      | peerDisconnected connection =>
          refine ih (fun other => ?_) later
          by_cases same : other = connection
          · subst same
            simp [SharedSocket.close, flushed other]
          · simp [Function.update_of_ne same, flushed other]
      | consume delivery =>
          obtain ⟨after, consumed, placed, stillFlushed⟩ :=
            consume_placed_iff flushed (distributable delivery List.mem_cons_self)
          simp only [calls, consumed, List.forall_mem_cons, placed]
          exact and_congr_right fun succeeds =>
            ih (stillFlushed succeeds) later

/-- A pool of one open connection. -/
def sampleState : State :=
  { sockets := fun _ => .connected 5, producingQueue := [] }

/-- A unit of the single query 7 of the object at address 4096. -/
def sampleDelivery (outcomes : List SendOutcome) : Delivery :=
  { unit := { concurrentData := 4096, resultIndex := 0 }
    heap := fun address =>
      if address = 4096 then
        some { exchange := some 0, appIndex := 1, pendingQueries := 1,
               queries := [7], results := [[]] }
      else none
    connections := [0]
    random := 0
    outcomes }

def sampleApplications : List HttpApp :=
  [.page, .calc { processQuery := fun query _ => [query] }]

theorem distributable_sampleDelivery (outcomes : List SendOutcome) :
    Distributable sampleApplications (sampleDelivery outcomes) :=
  ⟨_, _, _, rfl, rfl, rfl⟩

/-- Two units are accepted in several pieces each. -/
theorem calls_placed_sample :
    (calls sampleApplications sampleState
      [.consume (sampleDelivery [.accepted 2, .accepted 0]),
        .consume (sampleDelivery [])]).length = 2 ∧
    ∀ call ∈ calls sampleApplications sampleState
        [.consume (sampleDelivery [.accepted 2, .accepted 0]),
          .consume (sampleDelivery [])],
      Placed sampleApplications call.1 call.2.1 call.2.2 := by
  refine ⟨rfl, (calls_placed_iff (fun _ => rfl) ?_).mpr ?_⟩
  · intro delivery member
    simp only [List.mem_cons, Event.consume.injEq, List.not_mem_nil, or_false]
      at member
    rcases member with rfl | rfl <;> exact distributable_sampleDelivery _
  · intro call member connection text chosen serialized
    have listed : call ∈ [(sampleState, sampleDelivery [.accepted 2, .accepted 0],
        afterSend sampleState (sampleDelivery [.accepted 2, .accepted 0]) 0
          "1\n4096\n0\n7\n".toList),
      (afterSend sampleState (sampleDelivery [.accepted 2, .accepted 0]) 0
          "1\n4096\n0\n7\n".toList, sampleDelivery [],
        afterSend (afterSend sampleState
          (sampleDelivery [.accepted 2, .accepted 0]) 0
          "1\n4096\n0\n7\n".toList) (sampleDelivery []) 0
          "1\n4096\n0\n7\n".toList)] := member
    simp only [List.mem_cons, List.not_mem_nil, or_false] at listed
    rcases listed with rfl | rfl
    · cases chosen
      cases serialized
      decide
    · cases chosen
      cases serialized
      decide

/-- The connection fails after three bytes: the unit is neither transmitted
nor produced. -/
theorem unit_lost_when_send_fails :
    Distributable sampleApplications (sampleDelivery [.accepted 2, .error]) ∧
      ∃ after,
        calls sampleApplications sampleState
            [.consume (sampleDelivery [.accepted 2, .error])] =
          [(sampleState, sampleDelivery [.accepted 2, .error], after)] ∧
        after.producingQueue = [] ∧
        (after.sockets 0).transmitted = "1\n4".toList ∧
        ¬ Placed sampleApplications sampleState
          (sampleDelivery [.accepted 2, .error]) after := by
  refine ⟨distributable_sampleDelivery _,
    afterSend sampleState (sampleDelivery [.accepted 2, .error]) 0
      "1\n4096\n0\n7\n".toList, rfl, by decide, by decide, ?_⟩
  exact not_placed_afterSend (fun _ => rfl) rfl rfl (by decide)
    (.inr (by decide))

end Distributor

end Concurrente.WebServer
