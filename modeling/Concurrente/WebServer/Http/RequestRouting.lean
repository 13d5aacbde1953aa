import Concurrente.WebServer.Http.HeaderParsing
import Concurrente.WebServer.WebApp.ChainedApps

/-!
# One client after another request

A connection handler parses the requests of a client from its socket and offers
each of them to the chain of applications.  It goes on until a request is not
valid, the client uses HTTP/1.0 or nothing more comes.
-/

namespace Concurrente.WebServer

open Http

/-! ## Parsing makes progress -/

namespace SharedSocket

theorem unreadLength_read (socket : SharedSocket) (size : Nat) (received : Text)
    (chunks : List Text) :
    (socket.read size received chunks).socket.unreadLength
        (socket.read size received chunks).pending ≤
      socket.unreadLength chunks := by
  induction chunks generalizing received with
  | nil =>
      rw [read]
      split
      · exact Nat.le_refl _
      · split
        · exact Nat.le_refl _
        · exact Nat.le_refl _
  | cons chunk chunks ih =>
      rw [read]
      split
      · exact Nat.le_refl _
      · split
        · exact Nat.le_refl _
        · dsimp only
          split
          · simp only [unreadLength, List.map_cons, List.sum_cons, List.length_drop]
            omega
          · have later := ih (received ++ chunk)
            simp only [unreadLength, List.map_cons, List.sum_cons] at later ⊢
            omega

/-- Sending does not touch what is received. -/
theorem input_write (socket : SharedSocket) (buffer : Text) (sent : Nat)
    (outcomes : List SendOutcome) :
    (socket.write buffer sent outcomes).2.input = socket.input := by
  induction outcomes generalizing socket buffer sent with
  | nil =>
      rw [write]
      split
      · rfl
      · split <;> rfl
  | cons outcome outcomes ih =>
      rw [write]
      dsimp only
      split
      · rfl
      · split
        · rfl
        · split
          · rfl
          · split
            · rfl
            · exact ih _ _ _

theorem input_send (socket : SharedSocket) (outcomes : List SendOutcome) :
    (socket.send outcomes).2.input = socket.input := by
  have kept := socket.input_write socket.output 0 outcomes
  simp only [send]
  split <;> exact kept

end SharedSocket

namespace Http.HttpRequest

theorem unreadLength_parseHeader {request : HttpRequest} {pending : List Text}
    (succeeded : (request.parseHeader pending).succeeded = true) :
    (request.parseHeader pending).request.socket.unreadLength
        (request.parseHeader pending).pending ≤
      request.socket.unreadLength pending := by
  induction bound : request.socket.unreadLength pending using Nat.strong_induction_on
    generalizing request pending with
  | _ amount ih =>
      cases read : request.socket.readLine '\n' pending with
      | mk line socket left =>
          cases line with
          | none =>
              rw [parseHeader_none read] at succeeded
              cases succeeded
          | some line =>
              have less := SharedSocket.unreadLength_readLine read
              rw [parseHeader_some read] at succeeded ⊢
              by_cases blank : isBlank line = true
              · rw [if_pos blank] at succeeded ⊢
                exact bound ▸ less.le
              · by_cases colon : ':' ∈ line
                · rw [if_neg blank, if_pos colon] at succeeded ⊢
                  have later := ih _ (bound ▸ less) succeeded rfl
                  exact later.trans (bound ▸ less.le)
                · rw [if_neg blank, if_neg colon] at succeeded
                  cases succeeded

theorem unreadLength_parseBody (request : HttpRequest) (behind : Text)
    (pending : List Text) :
    (request.parseBody behind pending).request.socket.unreadLength
        (request.parseBody behind pending).pending ≤
      request.socket.unreadLength pending := by
  unfold parseBody
  dsimp only
  split
  · split
    · exact Nat.le_refl _
    · rename_i size _
      split
      · exact Nat.le_refl _
      · have left := request.socket.unreadLength_read size.toNat [] pending
        split <;> exact left
  · exact Nat.le_refl _

theorem unreadLength_parseRequestLine {request : HttpRequest}
    {pending : List Text}
    (succeeded : (request.parseRequestLine pending).succeeded = true) :
    (request.parseRequestLine pending).request.socket.unreadLength
        (request.parseRequestLine pending).pending <
      request.socket.unreadLength pending := by
  unfold parseRequestLine at succeeded ⊢
  cases read : request.socket.readLine '\n' pending with
  | mk line socket left =>
      rw [read] at succeeded
      cases line with
      | none => cases succeeded
      | some line =>
          have less := SharedSocket.unreadLength_readLine read
          dsimp only at succeeded ⊢
          split
          · exact less
          · split
            · exact less
            · split <;> exact less

/-- A request that was parsed has taken something from the socket. -/
theorem unreadLength_parse {request : HttpRequest} {behind : Text}
    {pending : List Text}
    (succeeded : (request.parse behind pending).succeeded = true) :
    (request.parse behind pending).request.socket.unreadLength
        (request.parse behind pending).pending <
      request.socket.unreadLength pending := by
  unfold parse at succeeded ⊢
  dsimp only at succeeded ⊢
  by_cases line : (request.parseRequestLine pending).succeeded = true
  · rw [if_pos line] at succeeded ⊢
    have first := unreadLength_parseRequestLine line
    by_cases header : ((request.parseRequestLine pending).request.parseHeader
        (request.parseRequestLine pending).pending).succeeded = true
    · rw [if_pos header] at succeeded ⊢
      exact (unreadLength_parseBody _ _ _).trans_lt
        ((unreadLength_parseHeader header).trans_lt first)
    · rw [if_neg header] at succeeded
      exact (header succeeded).elim
  · rw [if_neg line] at succeeded
    exact (line succeeded).elim

end Http.HttpRequest

namespace Http

/-! ## The handler -/

/-- What the chain of applications makes of a request: the data produced, if
any, and the response. -/
structure Routed where
  produced : Option AskedData
  response : HttpResponse

/-- What happens around a request: the memory behind the buffer for its body
and the outcomes of sending its response. -/
structure Surroundings where
  behind : Text
  outcomes : List SendOutcome

/-- What is left when a client has been served. -/
structure Session where
  socket : SharedSocket
  pending : List Text
  produced : List AskedData

namespace HttpConnectionHandler

/-- The loop of `HttpConnectionHandler::route`, from the application at `index`
on.  Behind the last application an assertion fails. -/
def routeFrom (httpRequest : HttpRequest) (outcomes : List SendOutcome) :
    List WebApp → Nat → HttpResponse → Checked (Option Routed)
  | [], _, _ => .ok none
  | app :: applications, index, httpResponse =>
      let (handled, httpResponse) :=
        app.handleHttpRequest httpRequest httpResponse outcomes
      if handled then do
        let (produced, response) ←
          app.createConcurrentData httpRequest httpResponse index outcomes
        return some { produced, response }
      else routeFrom httpRequest outcomes applications (index + 1) httpResponse

/-- `HttpConnectionHandler::route`. -/
def route (applications : List WebApp) (httpRequest : HttpRequest)
    (httpResponse : HttpResponse) (outcomes : List SendOutcome) :
    Checked (Option Routed) :=
  routeFrom httpRequest outcomes applications 0 httpResponse

end HttpConnectionHandler

/-! ## What an application does -/

namespace WebApp

/-- The application takes a request with some method and URI. -/
def takes (app : WebApp) (method uri : Text) : Bool :=
  match app with
  | .home => method = "GET".toList ∧ uri = "/".toList
  | .calculator app => app.canHandle uri
  | .notFound => true

/-- The response an application sends at once, if it does. -/
def answer (app : WebApp) (uri : Text) (response : HttpResponse) :
    Checked (Option HttpResponse) :=
  match app with
  | .home => .ok (some (HomeWebApp.homepage response))
  | .notFound => .ok (some (NotFoundWebApp.notFoundPage response))
  | .calculator app =>
      if (parseRequest uri []).isEmpty then
        (app.formatResponse uri []).map fun answer =>
          some ((HomeWebApp.serveHeader response app.title).write answer)
      else .ok none

/-- What a calculator makes of a request with queries. -/
def ask (app : WebApp) (request : HttpRequest) (response : HttpResponse)
    (appIndex : Nat) : Option AskedData × HttpResponse :=
  match app with
  | .calculator app =>
      let response := HomeWebApp.serveHeader response app.title
      (some
        { request, response, app, appIndex
          queries := parseRequest request.uri [] }, response)
  | _ => (none, response)

/-- What the loop of `route` lets the application at `index` do. -/
def serve (app : WebApp) (request : HttpRequest) (response : HttpResponse)
    (index : Nat) (outcomes : List SendOutcome) :
    Checked (Option AskedData × HttpResponse) :=
  app.createConcurrentData request
    (app.handleHttpRequest request response outcomes).2 index outcomes

variable {app : WebApp} {request : HttpRequest} {response : HttpResponse}
  {outcomes : List SendOutcome}

theorem handles_iff_takes :
    (app.handleHttpRequest request response outcomes).1 =
      app.takes request.method request.uri := by
  cases app with
  | home =>
      by_cases asked : request.method = "GET".toList ∧ request.uri = "/".toList
      · rw [handleHttpRequest, HomeWebApp.handleHttpRequest, if_pos asked,
          HomeWebApp.serveHomepage, HttpResponse.send_eq]
        simp [takes, asked]
      · rw [handleHttpRequest, HomeWebApp.handleHttpRequest, if_neg asked]
        simp only [takes]
        exact (decide_eq_false asked).symm
  | calculator app => rfl
  | notFound =>
      rw [handleHttpRequest, NotFoundWebApp.serveNotFound, HttpResponse.send_eq]
      rfl

/-- An application that does not take a request leaves the response alone. -/
theorem handle_of_not_takes (other : app.takes request.method request.uri = false) :
    app.handleHttpRequest request response outcomes = (false, response) := by
  cases app with
  | home =>
      have notAsked := of_decide_eq_false other
      rw [handleHttpRequest, HomeWebApp.handleHttpRequest, if_neg notAsked]
  | calculator app =>
      exact congrArg (fun handled => (handled, response)) other
  | notFound => cases other

/-- An application that takes a request sends its answer, or else makes data of
the queries. -/
theorem serve_eq (taken : app.takes request.method request.uri = true)
    (index : Nat) :
    app.serve request response index outcomes =
      (app.answer request.uri response).map fun answer =>
        match answer with
        | some answer => (none, (answer.send outcomes).2)
        | none => app.ask request response index := by
  cases app with
  | home =>
      have asked := of_decide_eq_true taken
      rw [serve, handleHttpRequest, HomeWebApp.handleHttpRequest, if_pos asked]
      rfl
  | calculator app =>
      by_cases none : (parseRequest request.uri []).isEmpty = true
      · rw [serve, handleHttpRequest, createConcurrentData, answer, if_pos none]
        simp only [if_pos none]
        cases app.formatResponse request.uri [] with
        | error fault => rfl
        | ok answer => rfl
      · rw [serve, handleHttpRequest, createConcurrentData, answer, if_neg none]
        simp only [if_neg none]
        rfl
  | notFound => rfl

theorem socket_answer {uri : Text} {answer : HttpResponse}
    (answered : app.answer uri response = .ok (some answer)) :
    answer.socket = response.socket := by
  cases app with
  | home =>
      cases answered
      rfl
  | calculator app =>
      rw [WebApp.answer] at answered
      by_cases none : (parseRequest uri []).isEmpty = true
      · simp only [if_pos none] at answered
        cases formatted : app.formatResponse uri [] with
        | error fault =>
            rw [formatted] at answered
            cases answered
        | ok text =>
            rw [formatted] at answered
            cases answered
            rfl
      · simp only [if_neg none] at answered
        cases answered
  | notFound =>
      cases answered
      rfl

/-- Serving a request does not touch what is received. -/
theorem input_serve {index : Nat} {served : Option AskedData × HttpResponse}
    (taken : app.takes request.method request.uri = true)
    (result : app.serve request response index outcomes = .ok served) :
    served.2.socket.input = response.socket.input := by
  rw [serve_eq taken] at result
  cases answered : app.answer request.uri response with
  | error fault =>
      rw [answered] at result
      cases result
  | ok answer =>
      rw [answered] at result
      cases answer with
      | some answer =>
          cases result
          dsimp only
          rw [HttpResponse.send_eq, ← socket_answer answered]
          exact SharedSocket.input_send _ _
      | none =>
          cases app with
          | home => cases answered
          | calculator app =>
              cases result
              rfl
          | notFound => cases answered

end WebApp

namespace HttpConnectionHandler

variable {request : HttpRequest} {response : HttpResponse}
  {outcomes : List SendOutcome}

/-- A request goes to the first application of the chain that takes it. -/
theorem routeFrom_first {before : List WebApp} {app : WebApp}
    (others : ∀ other ∈ before, other.takes request.method request.uri = false)
    (taken : app.takes request.method request.uri = true) (after : List WebApp)
    (index : Nat) :
    routeFrom request outcomes (before ++ app :: after) index response =
      (app.serve request response (index + before.length) outcomes).map
        fun served => some { produced := served.1, response := served.2 } := by
  induction before generalizing index with
  | nil =>
      have handled :=
        (@WebApp.handles_iff_takes app request response outcomes).trans taken
      rw [List.nil_append, routeFrom]
      simp only [handled, if_true, List.length_nil, Nat.add_zero]
      rw [WebApp.serve]
      generalize app.createConcurrentData request _ index outcomes = served
      cases served with
      | error fault => rfl
      | ok served => rfl
  | cons other before ih =>
      have refused := @WebApp.handle_of_not_takes other request response
        outcomes (others other List.mem_cons_self)
      have later := ih (fun next member => others next (.tail _ member)) (index + 1)
      rw [List.cons_append, routeFrom, refused]
      simp only [Bool.false_eq_true, if_false, later, List.length_cons]
      rw [Nat.add_right_comm, Nat.add_assoc]

/-- Without an application that takes the request, the assertion fails. -/
theorem routeFrom_none {applications : List WebApp}
    (others : ∀ other ∈ applications,
      other.takes request.method request.uri = false) (index : Nat) :
    routeFrom request outcomes applications index response = .ok none := by
  induction applications generalizing index with
  | nil => rfl
  | cons other applications ih =>
      have refused := @WebApp.handle_of_not_takes other request response
        outcomes (others other List.mem_cons_self)
      rw [routeFrom, refused]
      exact ih (fun next member => others next (.tail _ member)) (index + 1)

/-- The first application that takes a request, or none. -/
theorem exists_first (applications : List WebApp) (method uri : Text) :
    (∃ before app after, applications = before ++ app :: after ∧
        (∀ other ∈ before, other.takes method uri = false) ∧
        app.takes method uri = true) ∨
      ∀ other ∈ applications, other.takes method uri = false := by
  cases found : applications.find? fun app => app.takes method uri with
  | none =>
      right
      intro other member
      have refused := List.find?_eq_none.mp found other member
      exact eq_false_of_ne_true refused
  | some app =>
      left
      obtain ⟨taken, before, after, split, others⟩ :=
        List.find?_eq_some_iff_append.mp found
      refine ⟨before, app, after, split, ?_, taken⟩
      intro other member
      have refused := others other member
      simpa using refused

theorem input_route {applications : List WebApp} {routed : Routed}
    (result : route applications request response outcomes = .ok (some routed)) :
    routed.response.socket.input = response.socket.input := by
  rcases exists_first applications request.method request.uri with
    ⟨before, app, after, rfl, others, taken⟩ | others
  · rw [route, routeFrom_first others taken] at result
    cases served : app.serve request response (0 + before.length) outcomes with
    | error fault =>
        rw [served] at result
        cases result
    | ok pair =>
        rw [served] at result
        cases result
        exact WebApp.input_serve taken served
  · rw [route, routeFrom_none others] at result
    cases result

/-- A request that was served has taken something from the socket. -/
theorem unreadLength_route {applications : List WebApp} {routed : Routed}
    {clientConnection : SharedSocket} {behind : Text} {pending left : List Text}
    (parsed : (HttpRequest.ofSocket clientConnection).parse behind pending =
      { succeeded := true, request, pending := left })
    (served : route applications request
        (.ofSocket request.socket request.httpVersion) outcomes =
      .ok (some routed)) :
    routed.response.socket.unreadLength left <
      clientConnection.unreadLength pending := by
  have succeeded : ((HttpRequest.ofSocket clientConnection).parse
      behind pending).succeeded = true := by rw [parsed]
  have less := HttpRequest.unreadLength_parse succeeded
  rw [parsed] at less
  have kept := input_route served
  unfold SharedSocket.unreadLength at less ⊢
  rw [kept]
  exact less

/-- `HttpConnectionHandler::consume`, with the rest of what the client sends
and what happens around each request.  The result is `none` when the assertion
of `route` fails. -/
def consume (applications : List WebApp) (around : Nat → Surroundings)
    (clientConnection : SharedSocket) (pending : List Text) :
    Checked (Option Session) :=
  match _ :
      (HttpRequest.ofSocket clientConnection).parse (around 0).behind pending with
  | { succeeded := false, request, pending := left } =>
      -- the connection is not closed here
      .ok (some { socket := request.socket, pending := left, produced := [] })
  | { succeeded := true, request := httpRequest, pending := left } =>
      match routed :
          route applications httpRequest
            (.ofSocket httpRequest.socket httpRequest.httpVersion)
            (around 0).outcomes with
      | .error fault => .error fault
      | .ok none => .ok none
      | .ok (some handled) =>
          if httpRequest.httpVersion = "HTTP/1.0".toList then
            .ok (some
              { socket := handled.response.socket.close, pending := left
                produced := handled.produced.toList })
          else do
            let later ← consume applications (fun request => around (request + 1))
              handled.response.socket left
            return later.map fun session =>
              { session with
                produced := handled.produced.toList ++ session.produced }
termination_by clientConnection.unreadLength pending
decreasing_by
  exact unreadLength_route ‹_› routed

end HttpConnectionHandler

end Http

end Concurrente.WebServer
