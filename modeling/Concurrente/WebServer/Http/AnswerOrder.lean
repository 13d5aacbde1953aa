import Concurrente.WebServer.Http.RequestDelivery

/-!
# The order of the answers

The client responder answers requests in the order in which their objects were
enqueued for it, whatever the other threads do in the meantime.
-/

namespace Concurrente.WebServer

open Library Network

namespace ClientResponder

/-- The object that the responder works on. -/
def inHand : ClientResponder → List Address
  | responding data => [data]
  | _ => []

end ClientResponder

namespace Configuration

variable {config : Configuration}

/-- The objects that were enqueued for the responder and are not answered yet,
in order. -/
def held (state : config.State) : List Address :=
  ClientResponder.inHand (state.thread .clientResponder) ++
    (state.queue .responderQueue).filterMap id

/-- What a step means for the client requests. -/
inductive RequestStep (node : Node config) (before after : config.State) :
    Prop where
  | pass
      (view : config.requestView after.store = config.requestView before.store)
      (handed : config.handedRequests after.sent =
        config.handedRequests before.sent)
      (kept : held after = held before)
  | accept {index : Fin config.maxConnections} {appIndex : UInt64}
      {queries : List Int64} {address : Address}
      (actor : node = .connectionHandler index)
      (consuming : before.thread (.connectionHandler index) =
        HttpConnectionHandler.consuming)
      (free : before.store.heap address = none)
      (store : after.store = { before.store with
        heap := Function.update before.store.heap address
          (some (.ofRequest before.store.accepted.length appIndex queries))
        accepted := before.store.accepted ++ [(appIndex, queries)] })
      (sent : after.sent = before.sent) (kept : held after = held before)
  | hand {data : Address} {pending : Nat}
      (actor : node = .responseAssembler)
      (producing : before.thread .responseAssembler =
        ResponseAssembler.producing data pending)
      (store : after.store = before.store)
      (sent : after.sent =
        before.sent ++ [⟨.responderQueue, some data, before.store⟩])
      (added : held after = held before ++ [data])
  | respond {data : Address}
      (actor : node = .clientResponder)
      (responding : before.thread .clientResponder =
        ClientResponder.responding data)
      (store : after.store = (ClientResponder.respond data before.store).1)
      (sent : after.sent = before.sent) (removed : held before = data :: held after)

theorem eq_of_uses_responderQueue {node : Node config}
    (used : uses node .responderQueue) :
    node = .responseAssembler ∨ node = .clientResponder := by
  cases node with
  | responseAssembler => exact .inl rfl
  | clientResponder => exact .inr rfl
  | _ => simp [uses] at used

variable {capacity : Channel config → Option Nat} {before after : config.State}

/-- The other threads neither touch the responder nor its queue. -/
theorem held_of_other {node : Node config}
    (step : Step (config.network capacity) node before after)
    (assembler : node ≠ .responseAssembler) (responder : node ≠ .clientResponder) :
    held after = held before := by
  have apart : ¬ uses node .responderQueue := fun used =>
    (eq_of_uses_responderQueue used).elim assembler responder
  have within := act_within node (before.thread node)
  cases step with
  | receive acts | send acts =>
      rw [show config.act node (before.thread node) = _ from acts] at within
      have other : Channel.responderQueue ≠ _ := fun same => apart (same ▸ within)
      simp only [held, Function.update_of_ne other,
        Function.update_of_ne (Ne.symm responder)]
  | receiveClosed | sendClosed | work =>
      simp only [held, Function.update_of_ne (Ne.symm responder)]

theorem view_of_passes {node : Node config}
    (known : Accounted config.applications before.store.heap
      (config.unitWeights.total before))
    (passes : Passes node (before.thread node))
    (step : Step (config.network capacity) node before after) :
    config.requestView after.store = config.requestView before.store ∧
      config.handedRequests after.sent = config.handedRequests before.sent := by
  let inv := fun (shared : Shared config) (_ : Address → Nat)
      (sent : List (Sent (Shared config) config.Item)) =>
    config.requestView shared = config.requestView before.store ∧
      config.handedRequests sent = config.handedRequests before.sent
  have ignores : Ignores inv config.requestView BeforeResponder :=
    { store := fun same kept => ⟨same.trans kept.1, kept.2⟩
      sent := fun quiet kept => ⟨kept.1, (handedRequests_quiet quiet).trans kept.2⟩ }
  have respects : KeepsHistory (fun channel => config.link channel ≠ none)
      (fun _ state => Accounted config.applications state.store.heap
        (config.unitWeights.total state)) inv node (before.thread node) :=
    Configuration.keepsHistory ignores (fun _ _ accounted => accounted) passes
  refine step.preserves respects (fun channel unlinked link belongs => ?_) known
    ⟨rfl, rfl⟩
  exact (unlinked fun none => by simp [network, none] at belongs).elim

theorem requestStep_of_consuming {index : Fin config.maxConnections}
    (consuming : before.thread (.connectionHandler index) =
      HttpConnectionHandler.consuming)
    (step : Step (config.network capacity) (.connectionHandler index) before
      after) : RequestStep (.connectionHandler index) before after := by
  have kept := held_of_other step (by simp) (by simp)
  have acting : config.act (.connectionHandler index) (before.thread _) =
      .work HttpConnectionHandler.consume := by
    rw [consuming]
    rfl
  cases step with
  | receive acts | receiveClosed acts | send acts | sendClosed acts =>
      cases acting.symm.trans acts
  | work acts result =>
      cases acting.symm.trans acts
      rcases HttpConnectionHandler.consume_cases result with
        ⟨_, _, _, _, _, _, _, _, free, rfl, rfl⟩ | ⟨_, rfl, rfl⟩
      · exact .accept rfl consuming free rfl rfl kept
      · exact .pass rfl rfl kept

theorem requestStep_of_producing {data : Address} {pending : Nat}
    (producing : before.thread .responseAssembler =
      ResponseAssembler.producing data pending)
    (step : Step (config.network capacity) .responseAssembler before after) :
    RequestStep .responseAssembler before after := by
  have acting : config.act .responseAssembler (before.thread _) =
      .send .responderQueue (some data) fun _ => .loop pending := by
    rw [producing]
    rfl
  cases step with
  | receive acts | receiveClosed acts | work acts =>
      cases acting.symm.trans acts
  | sendClosed acts isClosed =>
      cases acting.symm.trans acts
      exact (isClosed fun link belongs => by cases belongs).elim
  | send acts =>
      cases acting.symm.trans acts
      refine .hand rfl producing rfl rfl ?_
      simp [held]

theorem requestStep_of_responding {data : Address}
    (responding : before.thread .clientResponder =
      ClientResponder.responding data)
    (step : Step (config.network capacity) .clientResponder before after) :
    RequestStep .clientResponder before after := by
  have acting : config.act .clientResponder (before.thread _) =
      .work fun _ shared => some (ClientResponder.respond data shared) := by
    rw [responding]
    rfl
  cases step with
  | receive acts | receiveClosed acts | send acts | sendClosed acts =>
      cases acting.symm.trans acts
  | work acts result =>
      cases acting.symm.trans acts
      have responds := Option.some.inj result
      refine .respond rfl responding (congrArg Prod.fst responds).symm rfl ?_
      have done : ClientResponder.inHand
          (ClientResponder.respond data before.store).2 = [] := by
        unfold ClientResponder.respond
        split <;> rfl
      rw [responds] at done
      simp only [held, Function.update_self]
      rw [responding, done]
      rfl

/-- The assembler passes units on, and at its end a stop condition. -/
theorem held_of_assembler
    (passes : @Passes config .responseAssembler (before.thread .responseAssembler))
    (step : Step (config.network capacity) .responseAssembler before after) :
    held after = held before := by
  have responder : (Node.clientResponder : Node config) ≠ .responseAssembler := by
    simp
  generalize same : before.thread .responseAssembler = thread at passes
  cases step with
  | receiveClosed | sendClosed | work =>
      simp only [held, Function.update_of_ne responder]
  | @receive channel next item rest acts =>
      have other : Channel.responderQueue ≠ channel := by
        rw [same] at acts
        cases thread with
        | loop pending =>
            cases pending with
            | zero => cases acts
            | succ =>
                cases acts
                simp
        | assembling | producing | ended | failed => cases acts
      simp only [held, Function.update_of_ne responder, Function.update_of_ne other]
  | @send channel item next acts =>
      rw [same] at acts
      cases thread with
      | loop pending =>
          cases pending with
          | zero =>
              cases acts
              simp [held]
          | succ => cases acts
      | producing => exact passes.elim
      | assembling | ended | failed => cases acts

theorem held_of_responder
    (passes : @Passes config .clientResponder (before.thread .clientResponder))
    (step : Step (config.network capacity) .clientResponder before after) :
    held after = held before := by
  generalize same : before.thread .clientResponder = thread at passes
  cases step with
  | @receive channel next item rest acts _ queue =>
      rw [same] at acts
      cases thread with
      | loop =>
          cases acts
          cases item with
          | none => simp [held, same, queue, ClientResponder.inHand]
          | some data => simp [held, same, queue, ClientResponder.inHand]
      | responding | ended | failed => cases acts
  | receiveClosed acts isClosed =>
      rw [same] at acts
      cases thread with
      | loop =>
          cases acts
          exact (isClosed fun link belongs => by cases belongs).elim
      | responding | ended | failed => cases acts
  | send acts | sendClosed acts =>
      rw [same] at acts
      cases thread with
      | loop | responding | ended | failed => cases acts
  | work acts =>
      rw [same] at acts
      cases thread with
      | responding => exact passes.elim
      | loop | ended | failed => cases acts

/-- What each step of the line means for the client requests. -/
theorem requestStep {node : Node config}
    (known : Accounted config.applications before.store.heap
      (config.unitWeights.total before))
    (step : Step (config.network capacity) node before after) :
    RequestStep node before after := by
  by_cases passes : Passes node (before.thread node)
  · obtain ⟨view, handed⟩ := view_of_passes known passes step
    refine .pass view handed ?_
    by_cases assembler : node = .responseAssembler
    · subst assembler
      exact held_of_assembler passes step
    · by_cases responder : node = .clientResponder
      · subst responder
        exact held_of_responder passes step
      · exact held_of_other step assembler responder
  · generalize same : before.thread node = thread at passes
    cases node with
    | connectionHandler index =>
        cases thread with
        | consuming => exact requestStep_of_consuming same step
        | producing | lastStop | ended => exact (passes trivial).elim
    | responseAssembler =>
        cases thread with
        | producing data pending => exact requestStep_of_producing same step
        | loop | assembling | ended | failed => exact (passes trivial).elim
    | clientResponder =>
        cases thread with
        | responding data => exact requestStep_of_responding same step
        | loop | ended | failed => exact (passes trivial).elim
    | _ => exact (passes trivial).elim

theorem responded_prefix {node : Node config}
    (known : Accounted config.applications before.store.heap
      (config.unitWeights.total before))
    (step : Step (config.network capacity) node before after) :
    before.store.responded <+: after.store.responded := by
  cases requestStep known step with
  | pass view =>
      simp only [requestView, Prod.mk.injEq] at view
      rw [view.2.2]
  | accept _ _ _ store | hand _ _ store => rw [store]
  | respond _ _ store =>
      rw [store, ClientResponder.respond]
      split
      · exact List.prefix_refl _
      · exact List.prefix_append _ _

end Configuration

/-! ## First in, first out -/

/-- The other objects serve the same requests when one is deleted. -/
theorem Heap.forall₂_serves_delete {heap : Heap} {address : Address}
    {number : Nat} {addresses : List Address} {numbers : List Nat}
    (serving : heap.Serves address number) (fresh : number ∉ numbers)
    (serves : List.Forall₂ heap.Serves addresses numbers) :
    List.Forall₂ (Heap.Serves (Function.update heap address none)) addresses
      numbers := by
  induction serves with
  | nil => exact .nil
  | cons first _ ih =>
      obtain ⟨ne, others⟩ := not_or.mp (List.mem_cons.not.mp fresh)
      refine .cons (Heap.serves_update_none.mpr ⟨?_, first⟩) (ih others)
      rintro rfl
      exact ne (serving.unique first)

/-- The responder answers the request that its object serves. -/
theorem ClientResponder.respond_serving {config : Configuration}
    {shared : Shared config} {data : Address} {number : Nat}
    (serving : shared.heap.Serves data number) :
    (ClientResponder.respond data shared).1 = { shared with
      heap := Function.update shared.heap data none
      responded := shared.responded ++ [number] } := by
  obtain ⟨calcData, live, exchange⟩ := serving.live
  rw [ClientResponder.respond]
  simp only [live, exchange]
  rfl

namespace Configuration

section Runs

variable {config : Configuration} {capacity : Channel config → Option Nat}
  {faults : Prop} {allowed : Node config → config.State → Prop}

variable {before after : config.State} {data : Address}

theorem handed_of_sent
    (run : Reaches (config.network capacity) faults allowed config.start after)
    (sent : after.sent =
      before.sent ++ [⟨.responderQueue, some data, before.store⟩]) :
    ∃ number, before.store.heap.Serves data number ∧
      config.handedRequests after.sent =
        config.handedRequests before.sent ++ [number] := by
  have member : ⟨.responderQueue, some data, before.store⟩ ∈ after.sent := by
    rw [sent]
    exact List.mem_append_right _ (List.mem_singleton_self _)
  obtain ⟨calcData, number, _, live, exchange, _⟩ :=
    (config.requestsKept run).snapshots _ _ member
  refine ⟨number, Heap.serves_of_live live exchange, ?_⟩
  rw [sent, RequestsKept.handedRequests_append live exchange]

/-- The requests are answered in the order in which they were enqueued for the
responder. -/
theorem handedRequests_eq {state : config.State}
    (run : Reaches (config.network capacity) faults allowed config.start state) :
    ∃ numbers, List.Forall₂ state.store.heap.Serves (held state) numbers ∧
      config.handedRequests state.sent = state.store.responded ++ numbers := by
  induction run with
  | refl => exact ⟨[], .nil, rfl⟩
  | @tail before after reached move ih =>
      obtain ⟨numbers, serves, handed⟩ := ih
      have run := Relation.ReflTransGen.tail reached move
      have kept := config.requestsKept reached
      cases move with
      | close => exact ⟨numbers, serves, handed⟩
      | step _ step =>
          cases requestStep (config.accounted reached) step with
          | pass view unhanded same =>
              simp only [requestView, Prod.mk.injEq] at view
              obtain ⟨requests, _, responded⟩ := view
              refine ⟨numbers, ?_, ?_⟩
              · rw [same]
                refine serves.imp fun address number serving => ?_
                rw [Heap.Serves, requests]
                exact serving
              · rw [unhanded, responded, handed]
          | accept _ _ free store sent same =>
              refine ⟨numbers, ?_, ?_⟩
              · rw [same, store]
                refine serves.imp fun address number serving => ?_
                obtain ⟨data, live, _⟩ := serving.live
                refine Heap.serves_update_some.mpr (.inr ⟨?_, serving⟩)
                rintro rfl
                cases free.symm.trans live
              · rw [sent, store, handed]
          | hand _ _ store sent added =>
              obtain ⟨number, serving, grown⟩ := handed_of_sent run sent
              refine ⟨numbers ++ [number], ?_, ?_⟩
              · rw [added, store]
                exact List.rel_append serves (.cons serving .nil)
              · rw [grown, store, handed, List.append_assoc]
          | @respond data _ _ store sent removed =>
              rw [removed] at serves
              cases serves with
              | @cons _ number _ rest serving others =>
                  have once := kept.once
                  rw [handed] at once
                  have fresh : number ∉ rest :=
                    (List.nodup_cons.mp (List.nodup_append.mp once).2.1).1
                  rw [ClientResponder.respond_serving serving] at store
                  refine ⟨rest, ?_, ?_⟩
                  · rw [store]
                    exact Heap.forall₂_serves_delete serving fresh others
                  · rw [sent, store, handed, List.append_assoc]
                    rfl

/-- The responder works on the first request that is not answered yet. -/
theorem exists_serves_of_responding
    (run : Reaches (config.network capacity) faults allowed config.start before)
    (responding : before.thread .clientResponder =
      ClientResponder.responding data) :
    ∃ number numbers, before.store.heap.Serves data number ∧
      config.handedRequests before.sent =
        before.store.responded ++ number :: numbers := by
  obtain ⟨numbers, serves, handed⟩ := handedRequests_eq run
  have first : held before =
      data :: (before.queue .responderQueue).filterMap id := by
    rw [held, responding]
    rfl
  rw [first] at serves
  cases serves with
  | @cons _ number _ rest serving _ => exact ⟨number, rest, serving, handed⟩

/-- A request that is answered is the first one not answered yet. -/
theorem answerStep {node : Node config}
    (run : Reaches (config.network capacity) faults allowed config.start before)
    (step : Step (config.network capacity) node before after) :
    after.store.responded = before.store.responded ∨
      ∃ number numbers, after.store.responded = before.store.responded ++ [number] ∧
        config.handedRequests before.sent =
          before.store.responded ++ number :: numbers := by
  cases requestStep (config.accounted run) step with
  | pass view =>
      simp only [requestView, Prod.mk.injEq] at view
      exact .inl view.2.2
  | accept _ _ _ store | hand _ _ store =>
      left
      rw [store]
  | respond _ responding store =>
      right
      obtain ⟨number, numbers, serving, handed⟩ :=
        exists_serves_of_responding run responding
      refine ⟨number, numbers, ?_, handed⟩
      rw [store, ClientResponder.respond_serving serving]

theorem handStep {node : Node config}
    (run : Reaches (config.network capacity) faults allowed config.start before)
    (permitted : allowed node before)
    (step : Step (config.network capacity) node before after) :
    config.handedRequests after.sent = config.handedRequests before.sent ∨
      ∃ data pending number, node = .responseAssembler ∧
        before.thread .responseAssembler =
          ResponseAssembler.producing data pending ∧
        before.store.heap.Serves data number ∧
        config.handedRequests after.sent =
          config.handedRequests before.sent ++ [number] := by
  cases requestStep (config.accounted run) step with
  | pass _ same => exact .inl same
  | accept _ _ _ _ sent | respond _ _ _ sent =>
      left
      rw [sent]
  | @hand data pending actor producing _ sent =>
      obtain ⟨number, serving, grown⟩ :=
        handed_of_sent (run.tail (.step permitted step)) sent
      exact .inr ⟨data, pending, number, actor, producing, serving, grown⟩

theorem accepted_eq {node : Node config}
    (run : Reaches (config.network capacity) faults allowed config.start before)
    (other : ∀ index, node ≠ .connectionHandler index)
    (step : Step (config.network capacity) node before after) :
    after.store.accepted = before.store.accepted := by
  cases requestStep (config.accounted run) step with
  | pass view =>
      simp only [requestView, Prod.mk.injEq] at view
      exact view.2.1
  | accept actor => exact (other _ actor).elim
  | hand _ _ store => rw [store]
  | respond _ _ store =>
      obtain ⟨heap, responded, same⟩ := ClientResponder.respond_fst _ before.store
      rw [store, same]

end Runs

end Configuration

end Concurrente.WebServer
