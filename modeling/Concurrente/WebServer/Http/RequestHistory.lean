import Concurrente.WebServer.Http.UnitConservation

/-!
# The history of client requests

Which objects were enqueued for the client responder, and what they held then.
The account of the units is known in every state; on top of it each request is
followed from its acceptance to its response.
-/

namespace Concurrente.WebServer

open Library Network

/-- The object at an address belongs to a client request. -/
def Heap.Serves (heap : Heap) (address : Address) (number : Nat) : Prop :=
  ∃ asked, heap.requests address = some (some number, asked)

namespace Configuration

variable (config : Configuration)

/-- The client requests whose objects were enqueued for the responder. -/
def handedRequests (sent : List (Sent (Shared config) config.Item)) : List Nat :=
  sent.filterMap fun
    | ⟨.responderQueue, some data, store⟩ =>
        (store.heap data).bind CalcData.exchange
    | _ => none

/-- The addresses in the queue of the responder. -/
@[simp] def itemHanded : (channel : Channel config) → config.Item channel →
    Address → Nat
  | .responderQueue, some data => Pi.single data 1
  | _, _ => 0

/-- The address the responder works on. -/
@[simp] def threadHanded : (node : Node config) → config.Thread node →
    Address → Nat
  | .clientResponder, .responding data => Pi.single data 1
  | _, _ => 0

/-- How often each address is held by the responder or its queue. -/
def handedWeights : Weights config.Item config.Thread (Address → Nat) where
  item := config.itemHanded
  thread := config.threadHanded
  lost channel item _ := config.itemHanded channel item

/-- What an object held when it was enqueued for the responder. -/
def CompleteSnapshot (shared : Shared config) (data : Address)
    (store : Shared config) : Prop :=
  ∃ calcData number app, store.heap data = some calcData ∧
    calcData.exchange = some number ∧
    shared.accepted[number]? = some (calcData.appIndex, calcData.queries) ∧
    calcData.Registered config.applications app ∧ calcData.Complete app

/-- Each request is accepted, served by one object, enqueued for the responder
and answered, each of it once. -/
structure RequestsKept (shared : Shared config) (handed : Address → Nat)
    (sent : List (Sent (Shared config) config.Item)) : Prop where
  accepted : ∀ address number asked,
    shared.heap.requests address = some (number, asked) →
    ∃ request, number = some request ∧ shared.accepted[request]? = some asked
  distinct : ∀ first second number, shared.heap.Serves first number →
    shared.heap.Serves second number → first = second
  once : (config.handedRequests sent).Nodup
  known : ∀ number ∈ config.handedRequests sent,
    number < shared.accepted.length
  handed : ∀ address number, shared.heap.Serves address number →
    (0 < handed address ↔ number ∈ config.handedRequests sent)
  served : ∀ number < shared.accepted.length,
    (∃ address, shared.heap.Serves address number) ∨
      number ∈ shared.responded
  responded : ∀ number ∈ shared.responded,
    number ∈ config.handedRequests sent
  gone : ∀ number ∈ shared.responded, ∀ address,
    ¬ shared.heap.Serves address number
  answeredOnce : shared.responded.Nodup
  snapshots : ∀ data store,
    ⟨.responderQueue, some data, store⟩ ∈ sent →
      config.CompleteSnapshot shared data store

/-- What the history looks at. -/
def requestView (shared : Shared config) :=
  (shared.heap.requests, shared.accepted, shared.responded)

end Configuration

section History

variable {config : Configuration} {mayClose : Channel config → Prop}
  {shared after : Shared config} {handed : Address → Nat}
  {sent : List (Sent (Shared config) config.Item)}

theorem Configuration.RequestsKept.congr
    (kept : config.RequestsKept shared handed sent)
    (same : config.requestView after = config.requestView shared) :
    config.RequestsKept after handed sent := by
  simp only [Configuration.requestView, Prod.mk.injEq] at same
  obtain ⟨requests, accepted, responded⟩ := same
  have serves : after.heap.Serves = shared.heap.Serves := by
    unfold Heap.Serves
    rw [requests]
  constructor
  · rw [requests, accepted]
    exact kept.accepted
  · rw [serves]
    exact kept.distinct
  · exact kept.once
  · rw [accepted]
    exact kept.known
  · rw [serves]
    exact kept.handed
  · rw [accepted, serves, responded]
    exact kept.served
  · rw [responded]
    exact kept.responded
  · rw [responded, serves]
    exact kept.gone
  · rw [responded]
    exact kept.answeredOnce
  · unfold Configuration.CompleteSnapshot
    rw [accepted]
    exact kept.snapshots

/-- Whatever is enqueued, except an object for the responder. -/
def Configuration.BeforeResponder (channel : Channel config)
    (item : config.Item channel) : Prop :=
  ∀ data, (⟨channel, item⟩ : Sigma config.Item) ≠ ⟨.responderQueue, some data⟩

theorem Configuration.handedRequests_quiet
    {entry : Sent (Shared config) config.Item}
    (quiet : BeforeResponder entry.channel entry.item) :
    config.handedRequests (sent ++ [entry]) = config.handedRequests sent := by
  obtain ⟨channel, item, store⟩ := entry
  rw [Configuration.handedRequests, List.filterMap_append]
  refine (List.append_cancel_left_eq _ _ []).mpr ?_ |>.trans (List.append_nil _)
  cases channel with
  | responderQueue =>
      cases item with
      | none => rfl
      | some data => exact (quiet data rfl).elim
  | _ => rfl

theorem Configuration.requestsKept_ignores :
    Ignores config.RequestsKept config.requestView
      Configuration.BeforeResponder where
  store same kept := kept.congr same
  sent {shared handed sent entry} quiet kept := by
    have unhanded : config.handedRequests (sent ++ [entry]) =
        config.handedRequests sent := Configuration.handedRequests_quiet quiet
    exact
      { accepted := kept.accepted
        distinct := kept.distinct
        once := unhanded ▸ kept.once
        known := unhanded ▸ kept.known
        handed := unhanded ▸ kept.handed
        served := kept.served
        responded := unhanded ▸ kept.responded
        gone := kept.gone
        answeredOnce := kept.answeredOnce
        snapshots := fun data snapshot member => by
          rcases List.mem_append.mp member with old | new
          · exact kept.snapshots data snapshot old
          · obtain rfl := List.mem_singleton.mp new
            exact (quiet data rfl).elim }

/-! ## What happens to a request -/

theorem Heap.serves_update_some {heap : Heap} {address other : Address}
    {data : CalcData} {number : Nat} :
    Heap.Serves (Function.update heap address (some data)) other number ↔
      (other = address ∧ data.exchange = some number) ∨
        (other ≠ address ∧ heap.Serves other number) := by
  by_cases same : other = address
  · subst same
    simp [Heap.Serves, Heap.requests, CalcData.request]
  · simp [Heap.Serves, Heap.requests, same]

theorem Heap.serves_update_none {heap : Heap} {address other : Address}
    {number : Nat} :
    Heap.Serves (Function.update heap address none) other number ↔
      other ≠ address ∧ heap.Serves other number := by
  by_cases same : other = address
  · subst same
    simp [Heap.Serves, Heap.requests]
  · simp [Heap.Serves, Heap.requests, same]

theorem Heap.Serves.unique {heap : Heap} {address : Address} {first second : Nat}
    (one : heap.Serves address first) (other : heap.Serves address second) :
    first = second := by
  obtain ⟨_, requests⟩ := one
  obtain ⟨_, requests'⟩ := other
  rw [requests] at requests'
  cases requests'
  rfl

theorem Heap.Serves.live {heap : Heap} {address : Address} {number : Nat}
    (serves : heap.Serves address number) :
    ∃ data, heap address = some data ∧ data.exchange = some number := by
  obtain ⟨asked, requests⟩ := serves
  obtain ⟨data, live, same⟩ := Option.map_eq_some_iff.mp requests
  exact ⟨data, live, congrArg Prod.fst same⟩

theorem Heap.serves_of_live {heap : Heap} {address : Address} {data : CalcData}
    {number : Nat} (live : heap address = some data)
    (exchange : data.exchange = some number) : heap.Serves address number :=
  ⟨(data.appIndex, data.queries), by
    simp [requests, live, CalcData.request, exchange]⟩

namespace Configuration.RequestsKept

/-- A new request is the only one with its number. -/
theorem accept {address : Address} {appIndex : UInt64} {queries : List Int64}
    (kept : config.RequestsKept shared handed sent)
    (free : shared.heap address = none) (unheld : handed address = 0) :
    config.RequestsKept { shared with
      heap := Function.update shared.heap address
        (some (.ofRequest shared.accepted.length appIndex queries))
      accepted := shared.accepted ++ [(appIndex, queries)] } handed sent := by
  have fresh (other : Address) :
      ¬ shared.heap.Serves other shared.accepted.length := by
    rintro ⟨asked, requests⟩
    obtain ⟨number, same, inside⟩ := kept.accepted _ _ _ requests
    cases same
    simp at inside
  have older {number : Nat} (member : number ∈ config.handedRequests sent) :
      number ≠ shared.accepted.length :=
    (kept.known number member).ne
  have isNew {number : Nat}
      (exchange : (CalcData.ofRequest shared.accepted.length appIndex
        queries).exchange = some number) : number = shared.accepted.length := by
    simpa [CalcData.ofRequest, CalcData.updatePending] using exchange.symm
  have grown {number : Nat} {asked : UInt64 × List Int64}
      (before : shared.accepted[number]? = some asked) :
      (shared.accepted ++ [(appIndex, queries)])[number]? = some asked := by
    rw [List.getElem?_append_left (List.getElem?_eq_some_iff.mp before).1]
    exact before
  constructor
  · intro other number asked requests
    by_cases same : other = address
    · subst same
      simp only [Heap.requests, Function.update_self, Option.map_some,
        Option.some.injEq, CalcData.request, CalcData.ofRequest,
        CalcData.updatePending, Prod.mk.injEq] at requests
      obtain ⟨rfl, rfl⟩ := requests
      exact ⟨_, rfl, by simp⟩
    · simp only [Heap.requests, Function.update_of_ne same] at requests
      obtain ⟨request, rfl, inside⟩ := kept.accepted other number asked requests
      exact ⟨request, rfl, grown inside⟩
  · intro first second number one other
    rw [Heap.serves_update_some] at one other
    rcases one with ⟨rfl, isFirst⟩ | ⟨_, one⟩ <;>
      rcases other with ⟨rfl, isSecond⟩ | ⟨_, other⟩
    · rfl
    · exact (fresh _ (isNew isFirst ▸ other)).elim
    · exact (fresh _ (isNew isSecond ▸ one)).elim
    · exact kept.distinct _ _ _ one other
  · exact kept.once
  · intro number member
    have before := kept.known number member
    simp only [List.length_append, List.length_singleton]
    omega
  · intro other number serves
    rcases Heap.serves_update_some.mp serves with ⟨rfl, exchange⟩ | ⟨_, old⟩
    · simp only [unheld, Nat.lt_irrefl, false_iff]
      exact fun member => older member (isNew exchange)
    · exact kept.handed other number old
  · intro number inside
    simp only [List.length_append, List.length_singleton] at inside
    by_cases last : number = shared.accepted.length
    · subst last
      exact .inl ⟨address, Heap.serves_update_some.mpr (.inl ⟨rfl, rfl⟩)⟩
    · rcases kept.served number (by omega) with ⟨other, serves⟩ | answered
      · refine .inl ⟨other, Heap.serves_update_some.mpr (.inr ⟨?_, serves⟩)⟩
        rintro rfl
        obtain ⟨_, requests⟩ := serves
        simp [Heap.requests, free] at requests
      · exact .inr answered
  · exact kept.responded
  · intro number answered other serves
    rcases Heap.serves_update_some.mp serves with ⟨_, exchange⟩ | ⟨_, old⟩
    · exact older (kept.responded number answered) (isNew exchange)
    · exact kept.gone number answered other old
  · exact kept.answeredOnce
  · intro data store member
    obtain ⟨calcData, number, app, live, exchange, asked, complete⟩ :=
      kept.snapshots data store member
    exact ⟨calcData, number, app, live, exchange, grown asked, complete⟩

theorem exists_exchange {address : Address} {data : CalcData}
    (kept : config.RequestsKept shared handed sent)
    (live : shared.heap address = some data) :
    ∃ number, data.exchange = some number ∧
      shared.accepted[number]? = some (data.appIndex, data.queries) ∧
      shared.heap.Serves address number := by
  have requests : shared.heap.requests address =
      some (data.exchange, data.appIndex, data.queries) := by
    simp [Heap.requests, live, CalcData.request]
  obtain ⟨number, exchange, asked⟩ := kept.accepted _ _ _ requests
  exact ⟨number, exchange, asked, Heap.serves_of_live live exchange⟩

theorem handedRequests_append {address : Address} {data : CalcData}
    {number : Nat} (live : shared.heap address = some data)
    (exchange : data.exchange = some number) :
    config.handedRequests (sent ++ [⟨.responderQueue, some address, shared⟩]) =
      config.handedRequests sent ++ [number] := by
  simp [handedRequests, live, exchange]

/-- A complete object that the responder does not hold yet is enqueued. -/
theorem hand {address : Address} {data : CalcData} {app : CalcWebApp}
    (kept : config.RequestsKept shared handed sent)
    (live : shared.heap address = some data)
    (registered : data.Registered config.applications app)
    (complete : data.Complete app) (unheld : handed address = 0) :
    config.RequestsKept shared (handed + Pi.single address 1)
      (sent ++ [⟨.responderQueue, some address, shared⟩]) := by
  obtain ⟨number, exchange, asked, serves⟩ := kept.exists_exchange live
  have fresh : number ∉ config.handedRequests sent := by
    rw [← kept.handed address number serves, unheld]
    exact Nat.lt_irrefl 0
  have appended : config.handedRequests
      (sent ++ [⟨.responderQueue, some address, shared⟩]) =
        config.handedRequests sent ++ [number] :=
    handedRequests_append live exchange
  constructor
  · exact kept.accepted
  · exact kept.distinct
  · rw [appended]
    exact List.nodup_append.mpr ⟨kept.once, List.nodup_singleton _, by
      rintro old member _ last rfl
      exact fresh (List.mem_singleton.mp last ▸ member)⟩
  · rw [appended]
    intro other member
    rcases List.mem_append.mp member with old | last
    · exact kept.known other old
    · rw [List.mem_singleton.mp last]
      exact (List.getElem?_eq_some_iff.mp asked).1
  · intro other request serving
    rw [appended]
    by_cases same : other = address
    · subst same
      obtain ⟨_, first⟩ := serves
      obtain ⟨_, second⟩ := serving
      rw [first] at second
      simp_all
    · have ne : request ≠ number := fun equal =>
        same (kept.distinct _ _ _ (equal ▸ serving) serves)
      simpa [same, ne] using kept.handed other request serving
  · exact kept.served
  · intro request answered
    rw [appended]
    exact List.mem_append_left _ (kept.responded request answered)
  · exact kept.gone
  · exact kept.answeredOnce
  · intro target store member
    rcases List.mem_append.mp member with old | new
    · exact kept.snapshots target store old
    · simp only [List.mem_singleton, Sent.mk.injEq, heq_eq_eq,
        Option.some.injEq, true_and] at new
      obtain ⟨rfl, rfl⟩ := new
      exact ⟨data, number, app, live, exchange, asked, registered, complete⟩

/-- An object is answered and deleted by the responder that holds it. -/
theorem respond {address : Address} {data : CalcData}
    (kept : config.RequestsKept shared (handed + Pi.single address 1) sent)
    (live : shared.heap address = some data) :
    config.RequestsKept { shared with
      heap := Function.update shared.heap address none
      responded := shared.responded ++ data.exchange.toList } handed sent := by
  obtain ⟨number, exchange, asked, serves⟩ := kept.exists_exchange live
  have answered : shared.responded ++ data.exchange.toList =
      shared.responded ++ [number] := by
    rw [exchange]
    rfl
  have member : number ∈ config.handedRequests sent :=
    (kept.handed address number serves).mp (by simp)
  rw [answered]
  constructor
  · intro other request asked requests
    by_cases same : other = address
    · subst same
      simp [Heap.requests] at requests
    · simp only [Heap.requests, Function.update_of_ne same] at requests
      exact kept.accepted other request asked requests
  · intro first second request one other
    exact kept.distinct _ _ _ (Heap.serves_update_none.mp one).2
      (Heap.serves_update_none.mp other).2
  · exact kept.once
  · exact kept.known
  · intro other request serving
    obtain ⟨ne, old⟩ := Heap.serves_update_none.mp serving
    simpa [ne] using kept.handed other request old
  · intro request inside
    rcases kept.served request inside with ⟨other, old⟩ | before
    · by_cases same : other = address
      · subst same
        rw [old.unique serves]
        exact .inr (List.mem_append_right _ (List.mem_singleton_self _))
      · exact .inl ⟨other, Heap.serves_update_none.mpr ⟨same, old⟩⟩
    · exact .inr (List.mem_append_left _ before)
  · intro request inside
    rcases List.mem_append.mp inside with before | last
    · exact kept.responded request before
    · rwa [List.mem_singleton.mp last]
  · intro request inside other serving
    obtain ⟨ne, old⟩ := Heap.serves_update_none.mp serving
    rcases List.mem_append.mp inside with before | last
    · exact kept.gone request before other old
    · rw [List.mem_singleton.mp last] at old
      exact ne (kept.distinct _ _ _ old serves)
  · refine List.nodup_append.mpr ⟨kept.answeredOnce, List.nodup_singleton _, ?_⟩
    rintro old before _ last rfl
    rw [List.mem_singleton.mp last] at before
    exact kept.gone number before address serves
  · exact kept.snapshots

end Configuration.RequestsKept

end History

/-! ## What the responder holds -/

/-- How often the stages of an address are those of the responder. -/
def handedCount : (Address → Multiset Stage) →+ (Address → Nat) where
  toFun stages address := (stages address).count .handed
  map_zero' := by
    funext
    simp
  map_add' _ _ := by
    funext
    simp

theorem handedCount_of_forall_ne {loads : List Load}
    (others : ∀ load ∈ loads, ∀ address, load ≠ .object address .handed) :
    handedCount (loadWeight loads) = 0 := by
  induction loads with
  | nil => exact map_zero _
  | cons load loads ih =>
      rw [loadWeight_cons, map_add,
        ih fun other member => others other (.tail _ member), add_zero]
      funext address
      have ne := others load (.head _)
      cases load with
      | broken => simp [handedCount, Load.weight]
      | object target stage =>
          by_cases same : address = target
          · subst same
            have stages : Stage.handed ≠ stage := fun equal =>
              ne address (equal ▸ rfl)
            simp [handedCount, Load.weight, stages]
          · simp [handedCount, Load.weight, same]

theorem handedCount_handed (address : Address) :
    handedCount (loadWeight [.object address .handed]) =
      Pi.single address 1 := by
  funext other
  by_cases same : other = address
  · subst same
    simp [handedCount, Load.weight]
  · simp [handedCount, Load.weight, same]

theorem requestLoads_ne_handed {applications : List HttpApp} {text : Text}
    {load : Load} (member : load ∈ requestLoads applications text)
    (address : Address) : load ≠ .object address .handed := by
  rcases requestLoads_cases applications text with rfl | broken | ⟨unit, _, loads⟩
  · simp at member
  · simp_all
  · simp_all [DataUnit.load]

theorem responseLoads_ne_handed {text : Text} {load : Load}
    (member : load ∈ responseLoads text) (address : Address) :
    load ≠ .object address .handed := by
  rcases responseLoads_cases text with rfl | broken | ⟨unit, loads⟩
  · simp at member
  · simp_all
  · simp_all [DataUnit.load]

section Link

variable {config : Configuration}

theorem Configuration.handedCount_item (channel : Channel config)
    (item : config.Item channel) :
    handedCount (loadWeight (config.itemLoads channel item)) =
      config.itemHanded channel item := by
  cases channel with
  | responderQueue =>
      cases item with
      | none => exact map_zero _
      | some data => exact handedCount_handed data
  | toWorker => exact handedCount_of_forall_ne fun _ => requestLoads_ne_handed
  | toMaster => exact handedCount_of_forall_ne fun _ => responseLoads_ne_handed
  | workerConnectionsQueue => exact map_zero _
  | decomposerQueue | distributorQueue | dataUnitsQueue | assemblerQueue
  | workerUnits | workerResponses =>
      refine handedCount_of_forall_ne fun load member address => ?_
      cases item <;> simp_all [DataUnit.load]

theorem Configuration.handedCount_thread (node : Node config)
    (thread : config.Thread node) :
    handedCount (loadWeight (config.threadLoads node thread)) =
      config.threadHanded node thread := by
  cases node with
  | clientResponder =>
      cases thread with
      | responding data => exact handedCount_handed data
      | loop | ended => exact map_zero _
      | failed => exact handedCount_of_forall_ne (by simp)
  | signalHandler | masterServer => exact map_zero _
  | decomposer =>
      refine handedCount_of_forall_ne fun load member address => ?_
      cases thread with
      | producing units pending =>
          obtain ⟨unit, _, rfl⟩ := List.mem_map.mp member
          simp [DataUnit.load]
      | loop | decomposing | ended | failed => simp_all
  | workerConnectionHandler =>
      refine handedCount_of_forall_ne fun load member address => ?_
      cases thread with
      | routing worker text => exact responseLoads_ne_handed member address
      | loop | reading | producing | removing | lastStop | ended | failed =>
          simp_all [DataUnit.load]
  | responseClient =>
      refine handedCount_of_forall_ne fun load member address => ?_
      cases thread with
      | sending text pending => exact responseLoads_ne_handed member address
      | loop | ended | failed => simp_all
  | connectionHandler | distributor | calculator | responseAssembler
  | requestServer | workerCalculator =>
      refine handedCount_of_forall_ne fun load member address => ?_
      cases thread <;> simp_all [DataUnit.load]

theorem Configuration.handedCount_lost (channel : Channel config)
    (item : config.Item channel) (reported : Bool) :
    handedCount (loadWeight (config.lostLoads channel item reported)) =
      config.itemHanded channel item := by
  cases channel with
  | responderQueue =>
      cases item with
      | none => exact map_zero _
      | some data => exact handedCount_handed data
  | toWorker worker =>
      refine handedCount_of_forall_ne fun load member address => ?_
      cases reported with
      | false => simp at member
      | true =>
          obtain ⟨old, inside, rfl⟩ := List.mem_map.mp member
          have ne := requestLoads_ne_handed inside
          rcases requestLoads_cases config.applications item with
            rfl | broken | ⟨unit, _, loads⟩ <;>
            simp_all [DataUnit.load, Load.lose]
  | toMaster worker =>
      refine handedCount_of_forall_ne fun load member address => ?_
      obtain ⟨old, inside, rfl⟩ := List.mem_map.mp member
      rcases responseLoads_cases item with rfl | broken | ⟨unit, loads⟩ <;>
        simp_all [DataUnit.load, Load.lose]
  | workerConnectionsQueue => exact map_zero _
  | decomposerQueue | distributorQueue | dataUnitsQueue | assemblerQueue
  | workerUnits | workerResponses =>
      refine handedCount_of_forall_ne fun load member address => ?_
      cases item <;> simp_all [DataUnit.load, Load.lose]

/-- What the responder holds is part of the account of the units. -/
theorem Configuration.handedWeights_total (state : config.State) :
    config.handedWeights.total state =
      handedCount (config.unitWeights.total state) := by
  have same : config.handedWeights = config.unitWeights.map handedCount := by
    simp only [handedWeights, Weights.map, unitWeights, handedCount_item,
      handedCount_thread, handedCount_lost]
  rw [same, Weights.total_map]

end Link

end Concurrente.WebServer
