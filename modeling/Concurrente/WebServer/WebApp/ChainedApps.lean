import Concurrente.WebServer.Http.HttpRequest
import Concurrente.WebServer.Http.HttpResponse
import Concurrente.WebServer.WebApp.AnswerMarkup

/-!
# The chain of web applications

A request is offered to one application after another.  The home page and the
page for unknown resources answer it themselves; the calculators make data of
it that is answered later, unless it asks for no number.
-/

namespace Concurrente.WebServer.Http

/-- `HttpResponse::reasonPhrases`. -/
def reasonPhrases : List (Int32 × Text) :=
  [(100, "Continue".toList),
    (101, "Switching Protocols".toList),
    (200, "OK".toList),
    (201, "Created".toList),
    (202, "Accepted".toList),
    (203, "Non-Authoritative Information".toList),
    (204, "No Content".toList),
    (205, "Reset Content".toList),
    (206, "Partial Content".toList),
    (300, "Multiple Choices".toList),
    (301, "Moved Permanently".toList),
    (302, "Found".toList),
    (303, "See Other".toList),
    (304, "Not Modified".toList),
    (305, "Use Proxy".toList),
    (307, "Temporary Redirect".toList),
    (400, "Bad Request".toList),
    (401, "Unauthorized".toList),
    (402, "Payment Required".toList),
    (403, "Forbidden".toList),
    (404, "Not Found".toList),
    (405, "Method Not Allowed".toList),
    (406, "Not Acceptable".toList),
    (407, "Proxy Authentication Required".toList),
    (408, "Request Timeout".toList),
    (409, "Conflict".toList),
    (410, "Gone".toList),
    (411, "Length Required".toList),
    (412, "Precondition Failed".toList),
    (413, "Payload Too Large".toList),
    (414, "URI Too Long".toList),
    (415, "Unsupported Media Type".toList),
    (416, "Range Not Satisfiable".toList),
    (417, "Expectation Failed".toList),
    (426, "Upgrade Required".toList),
    (500, "Internal Server Error".toList),
    (501, "Not Implemented".toList),
    (502, "Bad Gateway".toList),
    (503, "Service Unavailable".toList),
    (504, "Gateway Timeout".toList),
    (505, "HTTP Version Not Supported".toList)]

namespace HttpResponse

/-- A response before an application has seen it. -/
def ofSocket (socket : SharedSocket) (clientHttpVersion : Text) : HttpResponse :=
  { HttpMessage.ofSocket socket with
    httpVersion := clientHttpVersion
    statusCode := 200
    reasonPhrase := [] }

/-- `HttpResponse::setStatusCode`.  Without a phrase the code has to be one of
the standard ones. -/
def setStatusCode (response : HttpResponse) (statusCode : Int32)
    (reasonPhrase : Text) : Bool × HttpResponse :=
  if 0 < reasonPhrase.length then
    (true, { response with statusCode, reasonPhrase })
  else
    match reasonPhrases.find? fun standard => standard.1 = statusCode with
    | some (_, standard) =>
        (true, { response with statusCode, reasonPhrase := standard })
    | none => (false, response)

/-- `HttpMessage::setHeader`. -/
def setHeader (response : HttpResponse) (key value : Text) : HttpResponse :=
  { response with
    toHttpMessage := response.toHttpMessage.setHeader key value }

/-- Insertion into the body with `<<`. -/
def write (response : HttpResponse) (text : Text) : HttpResponse :=
  { response with body := response.body ++ text }

end HttpResponse

/-! ## Pages -/

namespace HomeWebApp

/-- `HomeWebApp::serveHeader`, with the headers it sets. -/
def serveHeader (response : HttpResponse) (title : Text) : HttpResponse :=
  ((response.setHeader "Server".toList "AttoServer v1.2".toList).setHeader
    "Content-type".toList "text/html; charset=utf-8".toList).write
      (WebServer.serveHeader title)

/-- The form of a calculator on the home page. -/
def form (app : CalcApp) (label placeholder button : String) : Text :=
  pageLines ["      <div class='form-group'>"] ++
    "        <form method='get' action='".toList ++ app.appPrefix ++
    "'>\n".toList ++
    pageLines
      ["          <label for='number'>" ++ label ++ "</label>",
        "          <input type='text' id='number' name='number' " ++
          "pattern=\"[+\\-]?\\d+(\\s*,\\s*[+\\-]?\\d+)*\" " ++
          "placeholder='" ++ placeholder ++ "' required>",
        "          <button type='submit'>" ++ button ++ "</button>",
        "        </form>",
        "      </div>"]

/-- The home page, as `serveHomepage` fills it in. -/
def homepage (response : HttpResponse) : HttpResponse :=
  ((((serveHeader response "Calculator Server".toList).write
    (pageLines ["    <div class='form-container'>"])).write
    (form .fact "Prime Factorization" "Ej: 17, 22, 33" "Factorize")).write
    (form .goldbach "Goldbach Sums" "Ej: 33, 44, -142" "Calculate Sums")).write
    (pageLines ["    </div>", "  </div>", "</body>", "</html>"])

/-- `HomeWebApp::serveHomepage`. -/
def serveHomepage (response : HttpResponse) (outcomes : List SendOutcome) :
    Bool × HttpResponse :=
  (homepage response).send outcomes

/-- `HomeWebApp::handleHttpRequest`. -/
def handleHttpRequest (request : HttpRequest) (response : HttpResponse)
    (outcomes : List SendOutcome) : Bool × HttpResponse :=
  if request.method = "GET".toList ∧ request.uri = "/".toList then
    serveHomepage response outcomes
  else (false, response)

end HomeWebApp

namespace NotFoundWebApp

/-- The page for an unknown resource, as `serveNotFound` fills it in. -/
def notFoundPage (response : HttpResponse) : HttpResponse :=
  (((response.setStatusCode 404 []).2.setHeader
    "Server".toList "AttoServer v1.0".toList).setHeader
    "Content-type".toList "text/html; charset=ascii".toList).write
      (pageLines
        ["<!DOCTYPE html>",
          "<html lang=\"en\">",
          "  <meta charset=\"ascii\"/>",
          "  <title>Not found</title>",
          "  <style>body \x7bfont-family: monospace\x7d h1 \x7bcolor: red\x7d</style>",
          "  <h1>Not found</h1>",
          "  <p>The requested resource was not found on this server.</p>",
          "  <hr><p><a href=\"/\">Homepage</a></p>",
          "</html>"])

/-- `NotFoundWebApp::serveNotFound`. -/
def serveNotFound (response : HttpResponse) (outcomes : List SendOutcome) :
    Bool × HttpResponse :=
  (notFoundPage response).send outcomes

end NotFoundWebApp

/-! ## The chain -/

/-- The applications that can be chained. -/
inductive WebApp where
  | home
  | calculator (app : CalcApp)
  | notFound
  deriving DecidableEq, Repr

/-- The chain that `main` registers. -/
def mainChain : List WebApp :=
  [.home, .calculator .fact, .calculator .goldbach, .notFound]

/-- The data of a calculator, with the messages it keeps. -/
structure AskedData where
  request : HttpRequest
  response : HttpResponse
  app : CalcApp
  appIndex : Nat
  queries : List Int64

namespace WebApp

/-- `HttpApp::handleHttpRequest`; `ConcurrentApp` only looks at the URI. -/
def handleHttpRequest (app : WebApp) (request : HttpRequest)
    (response : HttpResponse) (outcomes : List SendOutcome) : Bool × HttpResponse :=
  match app with
  | .home => HomeWebApp.handleHttpRequest request response outcomes
  | .calculator app => (app.canHandle request.uri, response)
  | .notFound => NotFoundWebApp.serveNotFound response outcomes

/-- `HttpApp::createConcurrentData`.  Without queries the response is sent at
once and there is no data. -/
def createConcurrentData (app : WebApp) (request : HttpRequest)
    (response : HttpResponse) (appIndex : Nat) (outcomes : List SendOutcome) :
    Checked (Option AskedData × HttpResponse) :=
  match app with
  | .home => .ok (none, response)
  | .notFound => .ok (none, response)
  | .calculator app =>
      let response := HomeWebApp.serveHeader response app.title
      let queries := parseRequest request.uri []
      if queries.isEmpty then do
        let answer ← app.formatResponse request.uri []
        return (none, ((response.write answer).send outcomes).2)
      else return (some { request, response, app, appIndex, queries }, response)

end WebApp

end Concurrente.WebServer.Http
