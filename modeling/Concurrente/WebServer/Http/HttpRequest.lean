import Concurrente.Common.Util
import Concurrente.WebServer.Http.HttpMessage
import Concurrente.WebServer.Network.LineReading
import Concurrente.WebServer.Network.Reading

/-!
# HTTP requests

A request is parsed from a socket: the request line and the headers line by
line, from the stream, and the body in one piece, from the descriptor.
-/

namespace Concurrente

/-- `std::stoull`, which like `stoul` accepts a minus sign. -/
def stoull (text : Text) : Except StdException UInt64 :=
  match scanNumeral text with
  | none => .error (.invalidArgument "stoull".toList)
  | some numeral =>
      if numeral.magnitude < 2 ^ 64 then
        let value := UInt64.ofNat numeral.magnitude
        .ok (if numeral.negative then -value else value)
      else .error (.outOfRange "stoull".toList)

/-- Extraction of a word with `>>`: the word and what is behind it. -/
def extractWord (text : Text) : Option (Text × Text) :=
  let start := text.dropWhile isSpace
  if start.isEmpty then none
  else
    some (start.takeWhile fun c => !isSpace c,
      start.dropWhile fun c => !isSpace c)

end Concurrente

namespace Concurrente.WebServer.Http

structure HttpRequest extends HttpMessage where
  method : Text
  uri : Text

/-- What a step of parsing leaves: whether it succeeded, the request and the
chunks that have not been delivered yet. -/
structure Parsed where
  succeeded : Bool
  request : HttpRequest
  pending : List Text

/-- Removes a trailing carriage return, if any. -/
def removeTrailingCR (line : Text) : Text :=
  if line.getLast? = some '\r' then line.dropLast else line

/-- The pair of a header line, `none` without a colon.  A white space right
behind the colon is ignored. -/
def headerField (text : Text) : Option (Text × Text) :=
  match find [':'] text with
  | none => none
  | some pos =>
      let key := text.take pos
      let pos := if text[pos + 1]?.any isSpace then pos + 1 else pos
      some (key, substr text (pos + 1))

namespace HttpRequest

def ofSocket (socket : SharedSocket) : HttpRequest :=
  { HttpMessage.ofSocket socket with method := [], uri := [] }

/-- `HttpRequest::parseRequestLine`. -/
def parseRequestLine (request : HttpRequest) (pending : List Text) : Parsed :=
  match request.socket.readLine '\n' pending with
  | { line := none, socket, pending } =>
      { succeeded := false, request := { request with socket }, pending }
  | { line := some line, socket, pending } =>
      let request := { request with socket }
      match extractWord line with
      | none => { succeeded := false, request, pending }
      | some (method, line) =>
          let request := { request with method }
          match extractWord line with
          | none => { succeeded := false, request, pending }
          | some (uri, line) =>
              let request := { request with uri }
              match extractWord line with
              | none => { succeeded := false, request, pending }
              | some (httpVersion, _) =>
                  { succeeded := true, request := { request with httpVersion },
                    pending }

/-- `HttpRequest::parseHeader`. -/
def parseHeader (request : HttpRequest) (pending : List Text) : Parsed :=
  match _ : request.socket.readLine '\n' pending with
  | { line := none, socket, pending } =>
      { succeeded := false, request := { request with socket }, pending }
  | { line := some line, socket, pending := left } =>
      let line := removeTrailingCR line
      if line.isEmpty then
        { succeeded := true, request := { request with socket }, pending := left }
      else
        match headerField line with
        | none =>
            { succeeded := false, request := { request with socket },
              pending := left }
        | some (key, value) =>
            parseHeader
              { request with
                socket, headers := request.headers.assign key value } left
termination_by request.socket.unreadLength pending
decreasing_by exact SharedSocket.unreadLength_readLine ‹_›

/-- The text `std::stringstream::str` takes from a buffer of characters.  It
ends at the first NUL, in the buffer or in the memory behind it. -/
def bufferText (buffer behind : Text) : Text := cString (buffer ++ behind)

/-- `HttpRequest::parseBody`, with the memory behind the buffer it allocates.
An exception of `std::stoull`, or of a vector that is too long, is caught. -/
def parseBody (request : HttpRequest) (behind : Text) (pending : List Text) :
    Parsed :=
  let value := request.getHeader "Content-Length".toList []
  if 0 < value.length then
    match stoull value with
    | .error _ => { succeeded := false, request, pending }
    | .ok size =>
        if 2 ^ 63 ≤ size.toNat then { succeeded := false, request, pending }
        else
          let read := request.socket.read size.toNat [] pending
          let request := { request with socket := read.socket }
          if read.result ≤ 0 then
            { succeeded := false, request, pending := read.pending }
          else
            { succeeded := true
              request := { request with body := bufferText read.buffer behind }
              pending := read.pending }
  else { succeeded := true, request, pending }

/-- `HttpRequest::parse`. -/
def parse (request : HttpRequest) (behind : Text) (pending : List Text) :
    Parsed :=
  let requestLine := request.parseRequestLine pending
  if requestLine.succeeded then
    let header := requestLine.request.parseHeader requestLine.pending
    if header.succeeded then header.request.parseBody behind header.pending
    else header
  else requestLine

end HttpRequest

end Concurrente.WebServer.Http
