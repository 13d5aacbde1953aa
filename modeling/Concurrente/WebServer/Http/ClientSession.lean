import Concurrente.WebServer.Http.RequestBody
import Concurrente.WebServer.Http.RequestRouting

/-!
# A session with a client

A connection handler serves every request that a client sends on its
connection, and stops at the first one that uses HTTP/1.0 or is not valid.
-/

namespace Concurrente.WebServer.Http

open Library

/-! ## Any client -/

/-- The data belong to a request for the calculator with their index, the first
application of the chain that takes it, and have its queries. -/
structure AskedData.Belongs (applications : List WebApp) (data : AskedData) :
    Prop where
  registered : applications[data.appIndex]? = some (.calculator data.app)
  first : ∀ other ∈ applications.take data.appIndex,
    other.takes data.request.method data.request.uri = false
  accepted : data.app.canHandle data.request.uri = true
  queries : data.queries = parseRequest data.request.uri []
  asked : data.queries ≠ []

namespace WebApp

variable {app : WebApp} {method uri : Text}

/-- A page without queries can always be formatted. -/
theorem answer_ne_error (taken : app.takes method uri = true)
    (response : HttpResponse) (fault : ArithmeticFault) :
    app.answer uri response ≠ .error fault := by
  cases app with
  | home => intro result; cases result
  | notFound => intro result; cases result
  | calculator app =>
      by_cases none : parseRequest uri [] = []
      · obtain ⟨body, answers⟩ := CalcApp.exists_answer taken none
        obtain ⟨results, page, computed, formatted, -⟩ := answers.exists_results
        rw [none] at computed
        cases computed
        intro result
        rw [answer, if_pos (by rw [none]; rfl), formatted] at result
        cases result
      · intro result
        rw [answer, if_neg (by simp [none])] at result
        cases result

/-- Only a calculator with queries does not answer at once. -/
theorem calculator_of_answer_none {response : HttpResponse}
    (later : app.answer uri response = .ok none) :
    ∃ calculator, app = .calculator calculator ∧ parseRequest uri [] ≠ [] := by
  cases app with
  | home => cases later
  | notFound => cases later
  | calculator app =>
      refine ⟨app, rfl, ?_⟩
      intro none
      rw [answer, if_pos (by rw [none]; rfl)] at later
      cases formatted : app.formatResponse uri [] with
      | error fault =>
          rw [formatted] at later
          cases later
      | ok page =>
          rw [formatted] at later
          cases later

end WebApp

namespace HttpConnectionHandler

/-- Data that `route` makes belong to their application. -/
theorem belongs_of_route {applications : List WebApp} {request : HttpRequest}
    {response : HttpResponse} {outcomes : List SendOutcome} {routed : Routed}
    (result : route applications request response outcomes = .ok (some routed)) :
    ∀ data ∈ routed.produced, data.Belongs applications := by
  intro data member
  rcases exists_first applications request.method request.uri with
    ⟨before, app, after, rfl, others, taken⟩ | others
  · rw [route, routeFrom_first others taken, Nat.zero_add,
      WebApp.serve_eq taken] at result
    cases answered : app.answer request.uri response with
    | error fault =>
        rw [answered] at result
        cases result
    | ok answer =>
        rw [answered] at result
        cases answer with
        | some answer =>
            cases result
            cases member
        | none =>
            obtain ⟨calculator, rfl, some⟩ :=
              WebApp.calculator_of_answer_none answered
            cases result
            cases member
            constructor
            · simp
            · simpa [WebApp.ask] using others
            · exact taken
            · rfl
            · exact some
  · rw [route, routeFrom_none others] at result
    cases result

/-- In a chain with the application that takes everything, a request is
routed. -/
theorem exists_route {applications : List WebApp}
    (last : .notFound ∈ applications) (request : HttpRequest)
    (response : HttpResponse) (outcomes : List SendOutcome) :
    ∃ routed, route applications request response outcomes =
      .ok (some routed) := by
  rcases exists_first applications request.method request.uri with
    ⟨before, app, after, rfl, others, taken⟩ | others
  · rw [route, routeFrom_first others taken, WebApp.serve_eq taken]
    cases answered : app.answer request.uri response with
    | error fault =>
        exact (WebApp.answer_ne_error taken response fault answered).elim
    | ok answer => exact ⟨_, rfl⟩
  · cases others .notFound last

section Steps

variable {applications : List WebApp} {around : Nat → Surroundings}
  {clientConnection : SharedSocket} {pending left : List Text}
  {request : HttpRequest}

/-- A request that is not valid ends the session. -/
theorem consume_invalid
    (parsed : (HttpRequest.ofSocket clientConnection).parse (around 0).behind
        pending = { succeeded := false, request, pending := left }) :
    consume applications around clientConnection pending =
      .ok (some { socket := request.socket, pending := left, produced := [] }) := by
  rw [consume]
  split
  next same =>
    rw [parsed] at same
    cases same
    rfl
  next same =>
    rw [parsed] at same
    cases same

/-- A valid request is routed. -/
theorem consume_parsed
    (parsed : (HttpRequest.ofSocket clientConnection).parse (around 0).behind
        pending = { succeeded := true, request, pending := left }) :
    consume applications around clientConnection pending =
      match route applications request
          (.ofSocket request.socket request.httpVersion) (around 0).outcomes with
      | .error fault => .error fault
      | .ok none => .ok none
      | .ok (some routed) =>
          if request.httpVersion = "HTTP/1.0".toList then
            .ok (some
              { socket := routed.response.socket.close, pending := left
                produced := routed.produced.toList })
          else
            (consume applications (fun request => around (request + 1))
              routed.response.socket left).map fun later =>
                later.map fun session =>
                  { session with
                    produced := routed.produced.toList ++ session.produced } := by
  rw [consume]
  split
  next same =>
    rw [parsed] at same
    cases same
  next same =>
    rw [parsed] at same
    cases same
    split
    next served => rw [served]
    next served => rw [served]
    next served =>
      rw [served]
      dsimp only
      split
      · rfl
      · generalize consume applications _ _ _ = later
        cases later with
        | error fault => rfl
        | ok session => rfl

/-- A request that was routed ends the session if it uses HTTP/1.0. -/
theorem consume_valid {routed : Routed}
    (parsed : (HttpRequest.ofSocket clientConnection).parse (around 0).behind
        pending = { succeeded := true, request, pending := left })
    (served : route applications request
        (.ofSocket request.socket request.httpVersion) (around 0).outcomes =
      .ok (some routed)) :
    consume applications around clientConnection pending =
      if request.httpVersion = "HTTP/1.0".toList then
        .ok (some
          { socket := routed.response.socket.close, pending := left
            produced := routed.produced.toList })
      else
        (consume applications (fun request => around (request + 1))
          routed.response.socket left).map fun later =>
            later.map fun session =>
              { session with
                produced := routed.produced.toList ++ session.produced } := by
  rw [consume_parsed parsed, served]

/-- The data of a session: none when the first request is not valid, otherwise
those of the first request, and those of a session with the other requests
behind it. -/
theorem consume_cases {session : Session}
    (result : consume applications around clientConnection pending =
      .ok (some session)) :
    session.produced = [] ∨
      ∃ request left routed,
        (HttpRequest.ofSocket clientConnection).parse (around 0).behind pending =
          { succeeded := true, request, pending := left } ∧
        route applications request
            (.ofSocket request.socket request.httpVersion) (around 0).outcomes =
          .ok (some routed) ∧
        (session.produced = routed.produced.toList ∨
          ∃ later,
            consume applications (fun request => around (request + 1))
              routed.response.socket left = .ok (some later) ∧
            session.produced = routed.produced.toList ++ later.produced) := by
  cases parsed : (HttpRequest.ofSocket clientConnection).parse
      (around 0).behind pending with
  | mk succeeded request left =>
      cases succeeded with
      | false =>
          rw [consume_invalid parsed] at result
          cases result
          exact .inl rfl
      | true =>
          right
          rw [consume_parsed parsed] at result
          split at result
          next => cases result
          next => cases result
          next routed served =>
            refine ⟨request, left, routed, rfl, served, ?_⟩
            split at result
            · cases result
              exact .inl rfl
            · right
              cases rest : consume applications
                  (fun request => around (request + 1))
                  routed.response.socket left with
              | error fault =>
                  rw [rest] at result
                  cases result
              | ok later =>
                  rw [rest] at result
                  cases later with
                  | none => cases result
                  | some later =>
                      cases result
                      exact ⟨later, rfl, rfl⟩

end Steps

/-- All data of a session belong to their application. -/
theorem belongs_of_consume {applications : List WebApp}
    {around : Nat → Surroundings} {clientConnection : SharedSocket}
    {pending : List Text} {session : Session}
    (result : consume applications around clientConnection pending =
      .ok (some session)) :
    ∀ data ∈ session.produced, data.Belongs applications := by
  induction bound : clientConnection.unreadLength pending
    using Nat.strong_induction_on
    generalizing clientConnection pending around session with
  | _ amount ih =>
      rcases consume_cases result with none | ⟨request, left, routed, parsed,
        served, last | ⟨later, rest, produced⟩⟩
      · rw [none]
        intro data member
        cases member
      · rw [last]
        intro data member
        exact belongs_of_route served data (Option.mem_toList.mp member)
      · rw [produced]
        intro data member
        rcases List.mem_append.mp member with now | after
        · exact belongs_of_route served data (Option.mem_toList.mp now)
        · have less := unreadLength_route parsed served
          exact ih _ (bound ▸ less) rest rfl data after

/-- Whatever a client sends and however the calls of `::send` end, a handler
stops and no assertion fails.  All data it makes belong to their
application. -/
theorem consume_stops {applications : List WebApp}
    (last : .notFound ∈ applications) (around : Nat → Surroundings)
    (clientConnection : SharedSocket) (pending : List Text) :
    ∃ session,
      consume applications around clientConnection pending = .ok (some session) ∧
        ∀ data ∈ session.produced, data.Belongs applications := by
  have stops : ∃ session,
      consume applications around clientConnection pending =
        .ok (some session) := by
    induction bound : clientConnection.unreadLength pending
      using Nat.strong_induction_on
      generalizing clientConnection pending around with
    | _ amount ih =>
        cases parsed : (HttpRequest.ofSocket clientConnection).parse
            (around 0).behind pending with
        | mk succeeded request left =>
            cases succeeded with
            | false => exact ⟨_, consume_invalid parsed⟩
            | true =>
                obtain ⟨routed, served⟩ := exists_route last request
                  (.ofSocket request.socket request.httpVersion)
                  (around 0).outcomes
                rw [consume_valid parsed served]
                by_cases old : request.httpVersion = "HTTP/1.0".toList
                · rw [if_pos old]
                  exact ⟨_, rfl⟩
                · rw [if_neg old]
                  have less := unreadLength_route parsed served
                  obtain ⟨session, rest⟩ := ih _ (bound ▸ less)
                    (fun request => around (request + 1))
                    routed.response.socket left rfl
                  rw [rest]
                  exact ⟨_, rfl⟩
  obtain ⟨session, result⟩ := stops
  exact ⟨session, result, belongs_of_consume result⟩

end HttpConnectionHandler

/-! ## Requests without a body -/

/-- A request without a body, as a client sends it. -/
structure PlainRequest where
  method : Text
  uri : Text
  httpVersion : Text
  ending : Text
  headers : List Text
  blank : Text
  words : ∀ word ∈ [method, uri, httpVersion],
    word ≠ [] ∧ ∀ c ∈ word, isSpace c = false ∧ c ≠ '\x00'
  endingBlank : ∀ c ∈ ending, isSpace c = true ∧ c ≠ '\n'
  plain : ∀ line ∈ blank :: headers, '\n' ∉ line ∧ '\x00' ∉ line
  colons : ∀ line ∈ headers, ':' ∈ line
  ends : isBlank blank = true
  bodyless : (lastHeader headers "Content-Length".toList).getD [] = []

namespace PlainRequest

variable (message : PlainRequest)

/-- The same request with an empty body that is announced. -/
def announced : RequestMessage where
  method := message.method
  uri := message.uri
  httpVersion := message.httpVersion
  ending := message.ending
  headers := message.headers ++ ["Content-Length:0".toList]
  blank := message.blank
  contentLength := ['0']
  body := []
  words := message.words
  endingBlank := message.endingBlank
  plain := by
    intro line member
    rcases List.mem_cons.mp member with rfl | header
    · exact message.plain _ List.mem_cons_self
    · rcases List.mem_append.mp header with own | last
      · exact message.plain line (.tail _ own)
      · rw [List.mem_singleton.mp last]
        decide
  colons := by
    intro line member
    rcases List.mem_append.mp member with own | last
    · exact message.colons line own
    · rw [List.mem_singleton.mp last]
      decide
  ends := message.ends
  announced := by
    have kept : (["Content-Length:0".toList].filter fun line =>
        toLower (headerKey line) = toLower "Content-Length".toList) =
          ["Content-Length:0".toList] := by decide
    rw [lastHeader, List.filter_append, kept, List.getLast?_concat]
    decide
  digits := by simp
  length := by decide
  text := by decide

def requestLine : Text := message.announced.requestLine

/-- The lines of the request. -/
def lines : List Text :=
  message.requestLine :: (message.headers ++ [message.blank])

/-- The request once it is parsed. -/
def parsed (socket : SharedSocket) : HttpRequest :=
  { HttpMessage.ofSocket socket with
    httpVersion := message.httpVersion
    headers := (OrderedMap.empty ignoreCase).assignAll
      (message.headers.map headerPair)
    method := message.method
    uri := message.uri }

theorem whole_lines :
    ∀ line ∈ message.lines, '\n' ∉ line ∧ '\x00' ∉ line := by
  intro line member
  apply message.announced.whole_lines
  rcases List.mem_cons.mp member with rfl | later
  · exact List.mem_cons_self
  · apply List.mem_cons_of_mem
    rcases List.mem_append.mp later with header | blank
    · exact List.mem_append_left _ (List.mem_append_left _ header)
    · exact List.mem_append_right _ blank

/-- A request that is read line by line is parsed as it was sent. -/
theorem parse_eq {socket last : SharedSocket} {pending left : List Text}
    (reads : ReadsLines '\n' socket pending message.lines last left)
    (behind : Text) :
    (HttpRequest.ofSocket socket).parse behind pending =
      { succeeded := true, request := message.parsed last, pending := left } := by
  cases reads with
  | @cons _ next _ _ middle _ _ _ read others =>
      have header := @HttpRequest.parseHeader_readsLines
        { HttpRequest.ofSocket next with
          httpVersion := message.announced.httpVersion
          method := message.announced.method
          uri := message.announced.uri } _ _ _ _ _ others message.colons
            message.ends
      have length : (message.parsed last).getHeader "Content-Length".toList [] =
          [] := by
        have looked : (message.parsed last).headers.find
            "Content-Length".toList =
              lastHeader message.headers "Content-Length".toList := by
          rw [parsed, OrderedMap.find_assignAll, lastValue_map]
          exact Option.or_none
        rw [HttpMessage.getHeader, looked]
        exact message.bodyless
      have noBody : (message.parsed last).parseBody behind left =
          { succeeded := true, request := message.parsed last,
            pending := left } := by
        rw [HttpRequest.parseBody, length]
        simp only [List.length_nil, Nat.lt_irrefl, if_false]
      rw [HttpRequest.parse, message.announced.parseRequestLine_eq read]
      simp only [if_true, header]
      exact noBody

end PlainRequest

/-! ## Handling one request -/

/-- What a chain makes of a request: a text that is sent at once, or data. -/
inductive Handling where
  | answered (text : Text)
  | asked (data : AskedData)

namespace Handling

def text : Handling → Text
  | .answered text => text
  | .asked _ => []

def data : Handling → Option AskedData
  | .answered _ => none
  | .asked data => some data

end Handling

/-- All that a response writes. -/
def HttpResponse.text (response : HttpResponse) : Text :=
  response.buildStatusLine ++ HttpMessage.lineSeparator ++ response.block

/-- What the first application of a chain that takes a request makes of it. -/
inductive PlainRequest.Handled (applications : List WebApp)
    (message : PlainRequest) : Handling → Prop where
  | answered {before after : List WebApp} {app : WebApp}
      {response : HttpResponse} :
      applications = before ++ app :: after →
      (∀ other ∈ before, other.takes message.method message.uri = false) →
      app.takes message.method message.uri = true →
      app.answer message.uri
          (.ofSocket (.connected 0) message.httpVersion) = .ok (some response) →
      Handled applications message (.answered response.text)
  | asked {before after : List WebApp} {app : CalcApp} (socket : SharedSocket) :
      applications = before ++ .calculator app :: after →
      (∀ other ∈ before, other.takes message.method message.uri = false) →
      app.canHandle message.uri = true →
      parseRequest message.uri [] ≠ [] →
      Handled applications message (.asked
        { request := message.parsed socket
          response := HomeWebApp.serveHeader
            (.ofSocket socket message.httpVersion) app.title
          app
          appIndex := before.length
          queries := parseRequest message.uri [] })

namespace HttpResponse

/-- A response whose text is accepted whole. -/
theorem send_accepted {response : HttpResponse} {outcomes : List SendOutcome}
    (openSocket : 0 ≤ response.socket.socketFileDescriptor)
    (nothing : response.socket.output = [])
    (small : response.text.length < 2 ^ 64)
    (accepted : acceptsAll response.text.length outcomes = true) :
    (response.send outcomes).2.socket =
      { response.socket with
        transmitted := response.socket.transmitted ++ response.text } := by
  have written : (response.socket.insert response.text).output =
      response.text := by
    rw [SharedSocket.insert, nothing]
    rfl
  have some : (response.socket.insert response.text).output ≠ [] := by
    rw [written, text, HttpMessage.lineSeparator]
    simp
  rw [send_eq]
  have sent := SharedSocket.send_of_acceptsAll some
    (by rw [written]; exact small) openSocket (by rw [written]; exact accepted)
  rw [text] at sent written
  simp only [sent, written]
  rw [SharedSocket.insert, nothing, text]

end HttpResponse

/-! Filling a response in does not look at its socket. -/

namespace HttpResponse

/-- The same response on another socket. -/
def onSocket (response : HttpResponse) (socket : SharedSocket) : HttpResponse :=
  { response with socket }

variable (response : HttpResponse) (socket : SharedSocket)

theorem setHeader_onSocket (key value : Text) :
    (response.onSocket socket).setHeader key value =
      (response.setHeader key value).onSocket socket := rfl

theorem write_onSocket (text : Text) :
    (response.onSocket socket).write text = (response.write text).onSocket socket :=
  rfl

theorem setStatusCode_onSocket (statusCode : Int32) (reasonPhrase : Text) :
    ((response.onSocket socket).setStatusCode statusCode reasonPhrase).2 =
      (response.setStatusCode statusCode reasonPhrase).2.onSocket socket := by
  rw [setStatusCode, setStatusCode]
  split
  · rfl
  · split
    · rfl
    · rfl

theorem serveHeader_onSocket (title : Text) :
    HomeWebApp.serveHeader (response.onSocket socket) title =
      (HomeWebApp.serveHeader response title).onSocket socket := by
  unfold HomeWebApp.serveHeader
  rw [setHeader_onSocket, setHeader_onSocket, write_onSocket]

theorem homepage_onSocket :
    HomeWebApp.homepage (response.onSocket socket) =
      (HomeWebApp.homepage response).onSocket socket := by
  unfold HomeWebApp.homepage
  rw [serveHeader_onSocket, write_onSocket, write_onSocket, write_onSocket,
    write_onSocket]

theorem notFoundPage_onSocket :
    NotFoundWebApp.notFoundPage (response.onSocket socket) =
      (NotFoundWebApp.notFoundPage response).onSocket socket := by
  unfold NotFoundWebApp.notFoundPage
  rw [setStatusCode_onSocket, setHeader_onSocket, setHeader_onSocket,
    write_onSocket]

end HttpResponse

/-- The socket of a response makes no difference to the answer. -/
theorem WebApp.answer_onSocket (app : WebApp) (uri : Text)
    (response : HttpResponse) (socket : SharedSocket) :
    app.answer uri (response.onSocket socket) =
      (app.answer uri response).map fun answer =>
        answer.map fun response => response.onSocket socket := by
  cases app with
  | home =>
      rw [answer, answer, response.homepage_onSocket]
      rfl
  | notFound =>
      rw [answer, answer, response.notFoundPage_onSocket]
      rfl
  | calculator app =>
      rw [answer, answer, response.serveHeader_onSocket]
      by_cases none : (parseRequest uri []).isEmpty = true
      · simp only [if_pos none, HttpResponse.write_onSocket]
        cases app.formatResponse uri [] with
        | error fault => rfl
        | ok page => rfl
      · simp only [if_neg none]
        rfl

namespace HttpConnectionHandler

/-- A request that was parsed is handled by the first application that takes
it.  A text sent at once is transmitted whole. -/
theorem route_plain {applications : List WebApp}
    (last : .notFound ∈ applications) (message : PlainRequest)
    {socket : SharedSocket} {outcomes : List SendOutcome}
    (openSocket : 0 ≤ socket.socketFileDescriptor) (nothing : socket.output = [])
    (sends : ∀ text, message.Handled applications (.answered text) →
      text.length < 2 ^ 64 ∧ acceptsAll text.length outcomes = true) :
    ∃ routed handling, message.Handled applications handling ∧
      route applications (message.parsed socket)
          (.ofSocket socket message.httpVersion) outcomes = .ok (some routed) ∧
      routed.response.socket =
        { socket with transmitted := socket.transmitted ++ handling.text } ∧
      routed.produced = handling.data := by
  rcases exists_first applications message.method message.uri with
    ⟨before, app, after, rfl, others, taken⟩ | others
  · have same : app.answer message.uri (.ofSocket socket message.httpVersion) =
        (app.answer message.uri
          (.ofSocket (.connected 0) message.httpVersion)).map fun answer =>
            answer.map fun response => response.onSocket socket :=
      WebApp.answer_onSocket app message.uri
        (.ofSocket (.connected 0) message.httpVersion) socket
    have first := @routeFrom_first (message.parsed socket)
      (.ofSocket socket message.httpVersion) outcomes _ _ others taken after 0
    have served := @WebApp.serve_eq _ (message.parsed socket)
      (.ofSocket socket message.httpVersion) outcomes taken (0 + before.length)
    rw [show (message.parsed socket).uri = message.uri from rfl, same] at served
    rw [served] at first
    rw [route]
    cases answered : app.answer message.uri
        (.ofSocket (.connected 0) message.httpVersion) with
    | error fault =>
        exact (WebApp.answer_ne_error taken _ fault answered).elim
    | ok answer =>
        rw [answered] at first
        cases answer with
        | some response =>
            have handled : message.Handled (before ++ app :: after)
                (.answered response.text) := .answered rfl others taken answered
            obtain ⟨small, accepted⟩ := sends _ handled
            refine ⟨_, _, handled, first, ?_, rfl⟩
            exact @HttpResponse.send_accepted (response.onSocket socket) outcomes
              openSocket nothing small accepted
        | none =>
            obtain ⟨calculator, rfl, some⟩ :=
              WebApp.calculator_of_answer_none answered
            refine ⟨_, _, .asked socket rfl others taken some, first, ?_, ?_⟩
            · rw [Handling.text, List.append_nil]
              rfl
            · rw [Nat.zero_add]
              rfl
  · cases others .notFound last

end HttpConnectionHandler

end Concurrente.WebServer.Http

namespace Concurrente.WebServer

/-! ## Lines of several requests -/

/-- Reading lines only changes the stream. -/
theorem ReadsLines.socket_eq {separator : Char} {socket last : SharedSocket}
    {chunks rest lines : List Text}
    (reads : ReadsLines separator socket chunks lines last rest) :
    ∃ input, last = { socket with input } := by
  induction reads with
  | nil => exact ⟨_, rfl⟩
  | cons read _ ih =>
      obtain ⟨stream, input, -, rfl, -⟩ := SharedSocket.readLine_some read
      obtain ⟨input', rfl⟩ := ih
      exact ⟨input', rfl⟩

/-- The first lines are read, and then the others. -/
theorem ReadsLines.split {separator : Char} {socket last : SharedSocket}
    {chunks rest second : List Text} (first : List Text)
    (reads : ReadsLines separator socket chunks (first ++ second) last rest) :
    ∃ middle left, ReadsLines separator socket chunks first middle left ∧
      ReadsLines separator middle left second last rest := by
  induction first generalizing socket chunks with
  | nil => exact ⟨socket, chunks, .nil, reads⟩
  | cons line first ih =>
      cases reads with
      | cons read later =>
          obtain ⟨middle, left, front, behind⟩ := ih later
          exact ⟨middle, left, .cons read front, behind⟩

/-- What has been sent makes no difference to the lines. -/
theorem SharedSocket.readLine_transmitted (socket : SharedSocket)
    (separator : Char) (chunks : List Text) (transmitted : Text) :
    { socket with transmitted }.readLine separator chunks =
      { socket.readLine separator chunks with
        socket := { (socket.readLine separator chunks).socket with
          transmitted } } := by
  induction chunks generalizing socket with
  | nil =>
      rw [readLine, readLine]
      cases socket.input.getline separator with
      | mk line input =>
          cases line with
          | none => rfl
          | some line => rfl
  | cons chunk chunks ih =>
      rw [readLine, readLine]
      cases socket.input.getline separator with
      | mk line input =>
          cases line with
          | some line => rfl
          | none =>
              dsimp only
              by_cases closed : socket.socketFileDescriptor < 0
              · rw [if_pos closed, if_pos closed]
              · rw [if_neg closed, if_neg closed]
                exact ih { socket with input := .ofText (cString chunk) }

theorem ReadsLines.transmitted {separator : Char} {socket last : SharedSocket}
    {chunks rest lines : List Text}
    (reads : ReadsLines separator socket chunks lines last rest)
    (transmitted : Text) :
    ReadsLines separator { socket with transmitted } chunks lines
      { last with transmitted } rest := by
  induction reads with
  | nil => exact .nil
  | cons read _ ih =>
      apply ReadsLines.cons
      · rw [SharedSocket.readLine_transmitted, read]
      · exact ih

end Concurrente.WebServer

namespace Concurrente.WebServer.Http

/-! ## The session -/

/-- The requests up to the first one that uses HTTP/1.0. -/
def served : List PlainRequest → List PlainRequest
  | [] => []
  | message :: messages =>
      if message.httpVersion = "HTTP/1.0".toList then [message]
      else message :: served messages

/-- Each response that is sent at once is short enough for its length to be a
`size_t`, and it is accepted whole. -/
def AcceptsAnswers (applications : List WebApp) (messages : List PlainRequest)
    (around : Nat → Surroundings) : Prop :=
  ∀ number message text, messages[number]? = some message →
    message.Handled applications (.answered text) →
      text.length < 2 ^ 64 ∧
        acceptsAll text.length (around number).outcomes = true

namespace HttpConnectionHandler

/-- When nothing more comes, the connection is closed. -/
theorem consume_nothing (applications : List WebApp) (around : Nat → Surroundings)
    {socket : SharedSocket} (empty : socket.input = .ofText [])
    (openSocket : 0 ≤ socket.socketFileDescriptor) :
    ∃ session, consume applications around socket [] = .ok (some session) ∧
      session.socket.transmitted = socket.transmitted ∧
      session.produced = [] ∧ session.socket.socketFileDescriptor = -1 := by
  have extracted : socket.input.getline '\n' =
      (none, { buffer := [], eof := true, fail := true }) := by
    rw [empty]
    rfl
  have parsed : (HttpRequest.ofSocket socket).parse (around 0).behind [] =
      { succeeded := false
        request := .ofSocket (SharedSocket.close
          { socket with input := { buffer := [], eof := true, fail := true } })
        pending := [] } := by
    rw [HttpRequest.parse, HttpRequest.parseRequestLine,
      show (HttpRequest.ofSocket socket).socket = socket from rfl,
      SharedSocket.readLine, extracted]
    rfl
  refine ⟨_, consume_invalid parsed, rfl, rfl, ?_⟩
  exact if_pos openSocket

/-- The session over the lines of the requests, by induction on them. -/
theorem consume_readsLines {applications : List WebApp}
    (last : .notFound ∈ applications) {messages : List PlainRequest}
    {around : Nat → Surroundings} {socket final : SharedSocket}
    {pending later : List Text}
    (reads : ReadsLines '\n' socket pending
      (messages.flatMap PlainRequest.lines) final later)
    (openSocket : 0 ≤ socket.socketFileDescriptor)
    (nothing : socket.output = [])
    (ends : (∃ message ∈ messages, message.httpVersion = "HTTP/1.0".toList) ∨
      final.input = .ofText [] ∧ later = [])
    (sends : AcceptsAnswers applications messages around) :
    ∃ handlings session,
      List.Forall₂ (PlainRequest.Handled applications) (served messages)
        handlings ∧
      consume applications around socket pending = .ok (some session) ∧
      session.socket.transmitted =
        socket.transmitted ++ handlings.flatMap Handling.text ∧
      session.produced = handlings.filterMap Handling.data ∧
      session.socket.socketFileDescriptor = -1 := by
  induction messages generalizing around socket final pending with
  | nil =>
      cases reads with
      | nil =>
          rcases ends with ⟨_, member, _⟩ | ⟨empty, rfl⟩
          · cases member
          · obtain ⟨session, result, transmitted, produced, closed⟩ :=
              consume_nothing applications around empty openSocket
            refine ⟨[], session, .nil, result, ?_, produced, closed⟩
            rw [transmitted, List.flatMap_nil, List.append_nil]
  | cons message messages ih =>
      rw [List.flatMap_cons] at reads
      obtain ⟨middle, left, own, others⟩ := reads.split message.lines
      obtain ⟨input, rfl⟩ := own.socket_eq
      have parsed := message.parse_eq own (around 0).behind
      obtain ⟨routed, handling, handled, result, after, produced⟩ :=
        @route_plain applications last message { socket with input }
          (around 0).outcomes openSocket nothing
          fun text answered => sends 0 message text rfl answered
      rw [consume_valid parsed result]
      by_cases old : message.httpVersion = "HTTP/1.0".toList
      · rw [served, if_pos old,
          if_pos (show (message.parsed _).httpVersion = _ from old)]
        refine ⟨[handling], _, .cons handled .nil, rfl, ?_, ?_, ?_⟩
        · rw [after]
          simp [SharedSocket.close]
        · rw [produced]
          cases handling with
          | answered text => rfl
          | asked data => rfl
        · rw [after]
          exact if_pos openSocket
      · rw [served, if_neg old,
          if_neg (show ¬ (message.parsed _).httpVersion = _ from old), after]
        have rest := others.transmitted (socket.transmitted ++ handling.text)
        have more : (∃ message ∈ messages,
              message.httpVersion = "HTTP/1.0".toList) ∨
            final.input = .ofText [] ∧ later = [] := by
          rcases ends with ⟨other, member, uses⟩ | ends
          · rcases List.mem_cons.mp member with rfl | behind
            · exact (old uses).elim
            · exact .inl ⟨other, behind, uses⟩
          · exact .inr ends
        obtain ⟨handlings, session, each, ended, transmitted, data, closed⟩ :=
          @ih (fun request => around (request + 1)) _ _ _ rest openSocket nothing
            more fun number other text found => sends (number + 1) other text found
        rw [ended]
        refine ⟨handling :: handlings, _, .cons handled each, rfl, ?_, ?_, closed⟩
        · rw [transmitted, List.flatMap_cons, List.append_assoc]
        · dsimp only
          rw [produced, data]
          cases handling with
          | answered text => rfl
          | asked data => rfl

/-- Requests that arrive in whole lines, however many of them in one chunk, are
served in order up to the first one that uses HTTP/1.0: each goes to the first
application that takes it, the texts sent at once reach the client one after
another and the others become data.  Then the connection is closed. -/
theorem consume_session {applications : List WebApp}
    (last : .notFound ∈ applications) {messages : List PlainRequest}
    {around : Nat → Surroundings} {socket : SharedSocket}
    {arrived extra : Text} {pending later : List Text}
    (openSocket : 0 ≤ socket.socketFileDescriptor)
    (nothing : socket.output = [])
    (stream : socket.input = .ofText (cString arrived))
    (delivered : Delivers '\n' arrived pending
      (messages.flatMap PlainRequest.lines) extra later)
    (ends : (∃ message ∈ messages, message.httpVersion = "HTTP/1.0".toList) ∨
      extra = [] ∧ later = [])
    (sends : AcceptsAnswers applications messages around) :
    ∃ handlings session,
      List.Forall₂ (PlainRequest.Handled applications) (served messages)
        handlings ∧
      consume applications around socket pending = .ok (some session) ∧
      session.socket.transmitted =
        socket.transmitted ++ handlings.flatMap Handling.text ∧
      session.produced = handlings.filterMap Handling.data ∧
      session.socket.socketFileDescriptor = -1 := by
  have whole : ∀ line ∈ messages.flatMap PlainRequest.lines,
      '\n' ∉ line ∧ '\x00' ∉ line := by
    intro line member
    obtain ⟨message, _, own⟩ := List.mem_flatMap.mp member
    exact message.whole_lines line own
  have reads := delivered.readsLines (by decide)
    (fun line member => (whole line member).1)
    (fun line member => (whole line member).2) openSocket
  rw [← stream] at reads
  apply consume_readsLines last reads openSocket nothing _ sends
  rcases ends with uses | ⟨rfl, rfl⟩
  · exact .inl uses
  · exact .inr ⟨rfl, rfl⟩

end HttpConnectionHandler

/-- A word of a request line. -/
def IsWord (word : Text) : Prop :=
  word ≠ [] ∧ ∀ c ∈ word, isSpace c = false ∧ c ≠ '\x00'

theorem isWord_of_all {word : Text} (some : word ≠ [])
    (all : (word.all fun c => isSpace c = false ∧ c ≠ '\x00') = true) :
    IsWord word := by
  constructor
  · exact some
  · intro c member
    exact of_decide_eq_true (List.all_eq_true.mp all c member)

theorem isWord_get : IsWord "GET".toList :=
  isWord_of_all (by decide) (by decide)

theorem isWord_http10 : IsWord "HTTP/1.0".toList :=
  isWord_of_all (by decide) (by decide)

theorem isWord_http11 : IsWord "HTTP/1.1".toList :=
  isWord_of_all (by decide) (by decide)

theorem isWord_factors : IsWord "/fact?number=12".toList :=
  isWord_of_all (by decide) (by decide)

theorem isWord_unknown : IsWord "/unknown".toList :=
  isWord_of_all (by decide) (by decide)

/-- A carriage return at the end of a line. -/
theorem carriageReturn_ends :
    isSpace '\r' = true ∧ '\r' ≠ '\n' ∧ '\n' ∉ ['\r'] ∧ '\x00' ∉ ['\r'] := by
  decide

/-- A request of a user agent that sends no headers. -/
def PlainRequest.get (uri httpVersion : Text) (uriWord : IsWord uri)
    (versionWord : IsWord httpVersion) : PlainRequest where
  method := "GET".toList
  uri
  httpVersion
  ending := ['\r']
  headers := []
  blank := ['\r']
  words := by
    intro word member
    rcases List.mem_cons.mp member with rfl | later
    · exact isWord_get
    · rcases List.mem_cons.mp later with rfl | last
      · exact uriWord
      · rw [List.mem_singleton.mp last]
        exact versionWord
  endingBlank := by
    intro c member
    rw [List.mem_singleton.mp member]
    exact ⟨carriageReturn_ends.1, carriageReturn_ends.2.1⟩
  plain := by
    intro line member
    rw [List.mem_singleton.mp member]
    exact carriageReturn_ends.2.2
  colons := by
    intro line member
    cases member
  ends := rfl
  bodyless := rfl

/-- A request for factors. -/
def askFactors : PlainRequest :=
  .get "/fact?number=12".toList "HTTP/1.1".toList isWord_factors isWord_http11

/-- A request for a resource that is not there. -/
def askUnknown : PlainRequest :=
  .get "/unknown".toList "HTTP/1.0".toList isWord_unknown isWord_http10

/-- Only the first application that takes a request can answer it. -/
theorem PlainRequest.Handled.answer_eq {applications : List WebApp}
    {message : PlainRequest} {text : Text}
    (handled : message.Handled applications (.answered text)) :
    ∃ app response,
      (applications.find? fun app => app.takes message.method message.uri) =
          some app ∧
        app.answer message.uri (.ofSocket (.connected 0) message.httpVersion) =
          .ok (some response) ∧
        response.text = text := by
  generalize same : Handling.answered text = handling at handled
  cases handled with
  | @answered before after app response split others taken answer =>
      cases same
      refine ⟨app, response, ?_, answer, rfl⟩
      rw [split, List.find?_append, List.find?_eq_none.mpr]
      · simp [taken]
      · intro other member
        simp [others other member]
  | asked => cases same

/-- A query takes time. -/
theorem not_answered_askFactors (text : Text) :
    ¬ askFactors.Handled mainChain (.answered text) := by
  intro handled
  obtain ⟨app, response, first, answer, rfl⟩ := handled.answer_eq
  have factors : (mainChain.find? fun app =>
      app.takes askFactors.method askFactors.uri) =
        some (.calculator .fact) := by decide
  rw [factors] at first
  cases first
  have accepted : CalcApp.fact.canHandle askFactors.uri = true := by decide
  have queries : parseRequest askFactors.uri [] = [12] := by
    rw [parseRequest, requestTexts_of_canHandle accepted]
    decide
  rw [WebApp.answer, queries] at answer
  cases answer

theorem acceptsAnswers_sample :
    AcceptsAnswers mainChain [askFactors, askUnknown] fun _ => ⟨[], []⟩ := by
  intro number message text found handled
  match number, found with
  | 0, found =>
      cases found
      exact absurd handled (not_answered_askFactors text)
  | 1, found =>
      cases found
      obtain ⟨app, response, first, answer, rfl⟩ := handled.answer_eq
      have unknown : (mainChain.find? fun app =>
          app.takes askUnknown.method askUnknown.uri) = some .notFound := by decide
      rw [unknown] at first
      cases first
      cases answer
      constructor
      · decide +kernel
      · rfl
  | number + 2, found => cases found

namespace HttpConnectionHandler

/-- Both requests in one chunk. -/
def sampleChunk : Text :=
  terminated '\n' (askFactors.lines ++ askUnknown.lines)

theorem delivers_sampleChunk :
    Delivers '\n' [] [sampleChunk] ([askFactors, askUnknown].flatMap PlainRequest.lines)
      [] [] := by
  have lines : [askFactors, askUnknown].flatMap PlainRequest.lines =
      askFactors.lines ++ askUnknown.lines := by simp
  have chunk := @Delivers.final '\n'
    (askFactors.lines ++ askUnknown.lines) [] [] (by decide)
  rw [List.append_nil] at chunk
  rw [lines]
  exact @Delivers.received '\n' [] _ _ _ _ _ (by decide) (by decide) chunk

theorem consume_session_sample :
    ∃ handlings session,
      List.Forall₂ (PlainRequest.Handled mainChain) [askFactors, askUnknown]
        handlings ∧
      consume mainChain (fun _ => ⟨[], []⟩) (.connected 3) [sampleChunk] =
        .ok (some session) ∧
      session.socket.transmitted = handlings.flatMap Handling.text ∧
      session.produced = handlings.filterMap Handling.data := by
  obtain ⟨handlings, session, handled, result, transmitted, produced, -⟩ :=
    @consume_session mainChain (by decide) [askFactors, askUnknown]
      (fun _ => ⟨[], []⟩) (.connected 3) _ _ _ _ (by decide) rfl rfl
      delivers_sampleChunk
      (.inr ⟨rfl, rfl⟩) acceptsAnswers_sample
  exact ⟨handlings, session, handled, result, transmitted, produced⟩

/-- The first request of the chunk becomes data. -/
theorem exists_data_sampleChunk :
    ∃ session data,
      consume mainChain (fun _ => ⟨[], []⟩) (.connected 3) [sampleChunk] =
          .ok (some session) ∧
        data ∈ session.produced := by
  have whole : ∀ line ∈ [askFactors, askUnknown].flatMap PlainRequest.lines,
      '\n' ∉ line ∧ '\x00' ∉ line := by
    decide
  have reads := @Delivers.readsLines '\n' (by decide) _ _ _ _ _ delivers_sampleChunk
    (fun line member => (whole line member).1)
    (fun line member => (whole line member).2) (.connected 3) (by decide)
  obtain ⟨handlings, session, handled, result, -, produced, -⟩ :=
    consume_readsLines (by decide) reads (by decide) rfl (.inr ⟨rfl, rfl⟩)
      acceptsAnswers_sample
  cases handled with
  | @cons _ handling _ others first =>
      cases handling with
      | answered text => exact absurd first (not_answered_askFactors text)
      | asked data => exact ⟨session, data, result, by simp [produced, Handling.data]⟩

theorem consume_stops_sample :
    ∃ session data,
      consume mainChain (fun _ => ⟨[], []⟩) (.connected 3) [sampleChunk] =
          .ok (some session) ∧
        data ∈ session.produced ∧ data.Belongs mainChain := by
  obtain ⟨session, data, result, produced⟩ := exists_data_sampleChunk
  obtain ⟨other, stops, belongs⟩ := @consume_stops mainChain (by decide)
    (fun _ => ⟨[], []⟩) (.connected 3) [sampleChunk]
  obtain rfl := Option.some.inj (Except.ok.inj (result.symm.trans stops))
  exact ⟨session, data, result, produced, belongs data produced⟩

end HttpConnectionHandler

end Concurrente.WebServer.Http
