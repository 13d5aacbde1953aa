import Concurrente.WebServer.Http.InevitableAnswers
import Concurrente.WebServer.Http.ResponsePages

/-!
# From a request to its page

The threads of the line know a request by its application and its queries.
What the connection handlers make of the requests of clients can be handed to
the line, and what the line computes is what the pages of the requests show.
-/

namespace Concurrente.WebServer

open Library Network Http

/-! ## The chain of the line -/

/-- What the line uses of a calculator.  Where `processQuery` has no value,
nothing is said about it. -/
def CalcApp.calcWebApp (app : CalcApp) : CalcWebApp where
  processQuery query stored :=
    match app with
    | .fact => (PrimeFactData.processQuery query stored).toOption.getD stored
    | .goldbach => (GoldbachData.processQuery query stored).toOption.getD stored

/-- What the line uses of an application. -/
def Http.WebApp.httpApp : WebApp → HttpApp
  | .calculator app => .calc app.calcWebApp
  | _ => .page

/-- The line runs the applications of a chain. -/
def Configuration.Runs (config : Configuration) (chain : List WebApp) : Prop :=
  config.applications = chain.map WebApp.httpApp

theorem CalcApp.processQuery_calcWebApp {app : CalcApp} {query : Int64}
    {result : List Int64} (computed : app.processQuery query = .ok result) :
    app.calcWebApp.processQuery query [] = result := by
  cases app with
  | fact =>
      rw [processQuery] at computed
      simp only [calcWebApp, computed]
      rfl
  | goldbach =>
      rw [processQuery] at computed
      simp only [calcWebApp, computed]
      rfl

namespace Http.AskedData

variable {chain : List WebApp} {data : AskedData}

/-- The index of the application of some data fits, and leads to it. -/
theorem Belongs.application {config : Configuration} (runs : config.Runs chain)
    (belongs : data.Belongs chain) :
    config.applications[(UInt64.ofNat data.appIndex).toNat]? =
      some (.calc data.app.calcWebApp) := by
  obtain ⟨inside, _⟩ := List.getElem?_eq_some_iff.mp belongs.registered
  have few : data.appIndex < 2 ^ 64 := by
    have bound := config.fewApplications
    rw [runs, List.length_map] at bound
    omega
  have index : (UInt64.ofNat data.appIndex).toNat = data.appIndex :=
    UInt64.toNat_ofNat_of_lt few
  rw [index, runs, List.getElem?_map, belongs.registered]
  rfl

/-- The page of computed results has an item for every token of the request. -/
theorem Belongs.exists_page (belongs : data.Belongs chain)
    {results : List (List Int64)}
    (computed : List.Forall₂
      (fun query result => data.app.processQuery query = .ok result)
      data.queries results) :
    ∃ response items, data.formatResponse results = .ok response ∧
      response.body = data.response.body ++
        (responseHead ++ items.flatten ++ responseTail) ∧
      List.Forall₂ data.app.ItemFor
        (valueTokens (decodeURI data.request.uri)) items := by
  have accepted := belongs.accepted
  rw [belongs.queries, parseRequest, List.nil_append,
    requestTexts_of_canHandle accepted] at computed
  obtain ⟨items, shown, each⟩ := formatItems_eq _ 0 computed
  have page : data.app.formatResponse data.request.uri results =
      .ok (responseHead ++ items.flatten ++ responseTail) := by
    rw [CalcApp.formatResponse, getURIValues_of_canHandle accepted, shown, ok_bind]
    rfl
  refine ⟨data.response.write (responseHead ++ items.flatten ++ responseTail),
    items, ?_, rfl, each⟩
  rw [formatResponse, page]
  rfl

end Http.AskedData

namespace Configuration

variable {config : Configuration} {capacity : Channel config → Option Nat}
  {chain : List WebApp} {data : AskedData} {state : config.State}

/-- An idle handler hands over data that belong to an application, at an
address that is free. -/
theorem exists_accept (runs : config.Runs chain) (belongs : data.Belongs chain)
    (few : data.queries.length < 2 ^ 64) {handler : Fin config.maxConnections}
    (idle : state.thread (.connectionHandler handler) = .consuming)
    {address : Address} (used : address ≠ 0)
    (free : state.store.heap address = none) :
    ∃ after, Step (config.network capacity) (.connectionHandler handler) state
        after ∧
      after.store.accepted = state.store.accepted ++
        [(UInt64.ofNat data.appIndex, data.queries)] := by
  have acts : (config.network capacity).act (.connectionHandler handler)
      (state.thread (.connectionHandler handler)) =
        .work HttpConnectionHandler.consume := by
    rw [idle]
    rfl
  have room : data.queries ≠ [] ∧ data.queries.length < 2 ^ 64 ∧ address ≠ 0 ∧
      state.store.heap address = none := ⟨belongs.asked, few, used, free⟩
  have result : HttpConnectionHandler.consume
      (.accept (UInt64.ofNat data.appIndex) data.queries address) state.store =
        some ({ state.store with
          heap := Function.update state.store.heap address
            (some (.ofRequest state.store.accepted.length
              (UInt64.ofNat data.appIndex) data.queries))
          accepted := state.store.accepted ++
            [(UInt64.ofNat data.appIndex, data.queries)] },
          .producing address) := by
    simp only [HttpConnectionHandler.consume, AskedData.Belongs.application runs
      belongs, if_pos room]
  exact ⟨_, .work acts result, rfl⟩

/-- When every query has a result, the results of the line are those of the
application. -/
theorem forall₂_processQuery
    (computes : ∀ query ∈ data.queries, ∃ result,
      data.app.processQuery query = .ok result) :
    List.Forall₂ (fun query result => data.app.processQuery query = .ok result)
      data.queries (data.queries.map fun query =>
        data.app.calcWebApp.processQuery query []) := by
  rw [List.forall₂_map_right_iff, List.forall₂_same]
  intro query member
  obtain ⟨result, computed⟩ := computes query member
  rw [CalcApp.processQuery_calcWebApp computed]
  exact computed

/-- What the line enqueued for the responder as the answer to a request makes
the page of the request: an item for every token of its URI. -/
def AnsweredWithPage (state : config.State) (number : Nat) (data : AskedData) :
    Prop :=
  ∃ address store calcData response items,
    ⟨.responderQueue, some address, store⟩ ∈ state.sent ∧
    store.heap address = some calcData ∧
    calcData.exchange = some number ∧
    data.formatResponse calcData.results = .ok response ∧
    response.body = data.response.body ++
      (responseHead ++ items.flatten ++ responseTail) ∧
    List.Forall₂ data.app.ItemFor
      (valueTokens (decodeURI data.request.uri)) items

theorem AnswersRequest.withPage (runs : config.Runs chain)
    (belongs : data.Belongs chain)
    (computes : ∀ query ∈ data.queries, ∃ result,
      data.app.processQuery query = .ok result) {number : Nat}
    (accepted : state.store.accepted[number]? =
      some (UInt64.ofNat data.appIndex, data.queries))
    (answers : AnswersRequest state number) :
    AnsweredWithPage state number data := by
  obtain ⟨appIndex, queries, app, address, store, calcData, known, registered,
    sent, live, exchange, asked, results⟩ := answers
  rw [accepted] at known
  cases known
  rw [AskedData.Belongs.application runs belongs] at registered
  cases registered
  obtain ⟨response, items, page, body, each⟩ :=
    AskedData.Belongs.exists_page belongs (forall₂_processQuery computes)
  rw [← results] at page
  exact ⟨address, store, calcData, response, items, sent, live, exchange, page,
    body, each⟩

/-- Whatever a client sends: each of the data a session makes can be handed to
the line by a handler that is idle.  In every run, whichever connections close
between two messages, in which the line has answered the request, the answer
makes the page of the request, if `processQuery` succeeds on every query. -/
theorem session_answered {around : Nat → Surroundings}
    {clientConnection : SharedSocket} {pending : List Text} {session : Session}
    (served : Http.HttpConnectionHandler.consume chain around clientConnection
      pending = .ok (some session)) (runs : config.Runs chain)
    (produced : data ∈ session.produced) :
    (data.queries.length < 2 ^ 64 →
      ∀ (state : config.State) (handler : Fin config.maxConnections)
        (address : Address),
        state.thread (.connectionHandler handler) = .consuming → address ≠ 0 →
          state.store.heap address = none →
            ∃ after, Step (config.network capacity) (.connectionHandler handler)
                state after ∧
              after.store.accepted = state.store.accepted ++
                [(UInt64.ofNat data.appIndex, data.queries)]) ∧
      ((∀ query ∈ data.queries, ∃ result,
          data.app.processQuery query = .ok result) →
        ∀ (faults : Prop) (allowed : Node config → config.State → Prop)
          (state : config.State),
          Reaches (config.network capacity) faults allowed config.start state →
            ∀ number ∈ state.store.responded,
              state.store.accepted[number]? =
                  some (UInt64.ofNat data.appIndex, data.queries) →
                AnsweredWithPage state number data) := by
  have belongs := Http.HttpConnectionHandler.belongs_of_consume served data produced
  constructor
  · intro few state handler address idle used free
    exact exists_accept runs belongs few idle used free
  · intro computes faults allowed state run number responded accepted
    have handed := (requestsKept run).responded number responded
    exact AnswersRequest.withPage runs belongs computes accepted
      (answersRequest_of_handed run handed)

/-! ## A request for one number -/

/-- The calculator of factors and the page for unknown resources. -/
@[reducible] def factChain : List WebApp := [.calculator .fact, .notFound]

/-- One thread of each kind and one worker. -/
@[reducible] def factConfiguration : Configuration where
  applications := factChain.map WebApp.httpApp
  fewApplications := by decide
  maxConnections := 1
  calculatorsAmount := 1
  maxWorkerConnections := 1
  workers := 1
  workerCalculators _ := 1

theorem isWord_one : IsWord "/fact?number=1".toList :=
  isWord_of_all (by decide) (by decide)

/-- The number one has no factors. -/
def askOne : PlainRequest :=
  .get "/fact?number=1".toList "HTTP/1.0".toList isWord_one isWord_http10

theorem parseRequest_askOne : parseRequest askOne.uri [] = [1] := by
  have accepted : CalcApp.fact.canHandle askOne.uri = true := by decide
  rw [parseRequest, requestTexts_of_canHandle accepted]
  decide

/-- The request is handed to the first application, whatever its socket. -/
theorem exists_route_askOne (socket : SharedSocket) :
    ∃ routed data,
      Http.HttpConnectionHandler.route factChain (askOne.parsed socket)
          (.ofSocket socket askOne.httpVersion) [] = .ok (some routed) ∧
      routed.produced = some data ∧ data.app = .fact ∧ data.appIndex = 0 ∧
      data.queries = [1] := by
  have taken : (WebApp.calculator .fact).takes askOne.method askOne.uri = true := by
    decide
  have queries : parseRequest (askOne.parsed socket).uri [] = [1] :=
    parseRequest_askOne
  have later : (WebApp.calculator .fact).answer (askOne.parsed socket).uri
      (.ofSocket socket askOne.httpVersion) = .ok none := by
    rw [WebApp.answer, queries]
    rfl
  have served := @Http.HttpConnectionHandler.routeFrom_first
    (askOne.parsed socket) (.ofSocket socket askOne.httpVersion) [] []
    (.calculator .fact) (fun _ member => absurd member List.not_mem_nil) taken
    [.notFound] 0
  rw [WebApp.serve_eq (by exact taken), later] at served
  exact ⟨_, _, served, rfl, rfl, rfl, queries⟩

/-- The session of a client that sends nothing else. -/
theorem exists_session_askOne :
    ∃ session data,
      Http.HttpConnectionHandler.consume factChain (fun _ => ⟨[], []⟩)
          (.connected 3) [terminated '\n' askOne.lines] = .ok (some session) ∧
      data ∈ session.produced ∧ data.app = .fact ∧ data.appIndex = 0 ∧
      data.queries = [1] := by
  have delivered : Delivers '\n' [] [terminated '\n' askOne.lines] askOne.lines
      [] [] := by
    have chunk := @Delivers.final '\n' askOne.lines [] [] (by decide)
    rw [List.append_nil] at chunk
    exact @Delivers.received '\n' [] _ _ _ _ _ (by decide) (by decide) chunk
  have reads := @Delivers.readsLines _ (by decide) _ _ _ _ _ delivered
    (fun line member => (askOne.whole_lines line member).1)
    (fun line member => (askOne.whole_lines line member).2) (.connected 3)
    (by decide)
  obtain ⟨routed, data, served, produced, app, index, queries⟩ :=
    exists_route_askOne { SharedSocket.connected 3 with input := .ofText (cString []) }
  have session := @Http.HttpConnectionHandler.consume_valid factChain
    (fun _ => ⟨[], []⟩) _ _ _ _ _ (askOne.parse_eq reads []) served
  rw [if_pos (by decide)] at session
  refine ⟨_, data, session, ?_, app, index, queries⟩
  rw [produced]
  exact List.mem_singleton_self data

abbrev FactTurn : Type :=
  Turn (Node factConfiguration) factConfiguration.Worker
    (Choice factConfiguration)

/-- The master answers the request on its own. -/
def factTurns : List FactTurn :=
  let go (node : Node factConfiguration) : FactTurn := .step node .proceed true
  [.step (.connectionHandler only) (.accept 0 [1] 4096) true,
    go (.connectionHandler only), go .decomposer, go .decomposer, go .decomposer,
    go .distributor, go .distributor, go .distributor, go (.calculator only),
    go (.calculator only), go (.calculator only), go .responseAssembler,
    go .responseAssembler, go .responseAssembler, go .clientResponder,
    go .clientResponder]

def factState : Option factConfiguration.State :=
  (factConfiguration.network fun _ => some 1).exec false (fun _ _ => true)
    factTurns factConfiguration.start

theorem session_answered_sample :
    ∃ state ∈ factState, ∃ session, ∃ data ∈ session.produced,
      Http.HttpConnectionHandler.consume factChain (fun _ => ⟨[], []⟩)
          (.connected 3) [terminated '\n' askOne.lines] = .ok (some session) ∧
      AnsweredWithPage state 0 data := by
  have works : factState.any (fun state =>
      state.store.responded = [0] ∧
        state.store.accepted = [(0, [1])]) = true := by
    decide +kernel
  obtain ⟨state, result, run, responded, accepted⟩ :=
    Reaches.exists_of_exec False (by decide) (fun _ _ _ => trivial) works
  obtain ⟨session, data, served, produced, app, index, queries⟩ :=
    exists_session_askOne
  have answered := (@session_answered factConfiguration (fun _ => some 1) _ _ _ _ _ _
    served rfl produced).2
  refine ⟨state, result, session, data, produced, served, ?_⟩
  apply answered _ False _ state run 0
  · rw [responded]
    exact List.mem_singleton_self 0
  · rw [accepted, index, queries]
    rfl
  · intro query member
    rw [queries] at member
    rw [List.mem_singleton.mp member, app]
    exact ⟨[], PrimeFactData.processQuery_of_le_one (by decide)⟩

end Configuration

end Concurrente.WebServer
