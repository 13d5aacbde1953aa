import Concurrente.WebServer.Http.HttpMessage
import Concurrente.WebServer.Network.Delivery
import Concurrente.WebServer.Network.Sending

/-!
# HTTP responses

A response is inserted into the socket of its client piece by piece and sent
at once.  `send` writes the headers that were set and then, for those of the
body that were not, what `sendBodyMetadata` makes up.
-/

namespace Concurrente.WebServer.Http

structure HttpResponse extends HttpMessage where
  statusCode : Int32
  reasonPhrase : Text

namespace HttpResponse

/-- Insertion into the socket with `<<`. -/
def insert (response : HttpResponse) (text : Text) : HttpResponse :=
  { response with socket := response.socket.insert text }

/-- `HttpResponse::buildStatusLine`. -/
def buildStatusLine (response : HttpResponse) : Text :=
  response.httpVersion ++ [' '] ++ longToString response.statusCode.toInt64 ++
    [' '] ++ response.reasonPhrase

/-- The first half of `sendBodyMetadata`: a type of content that was not set
is guessed. -/
def sendContentType (response : HttpResponse) : HttpResponse :=
  let contentType := response.getHeader "Content-Type".toList []
  if contentType = [] then
    let guess := response.guessContentType
    if 0 < guess.length then
      (response.insert guess).insert HttpMessage.lineSeparator
    else response
  else response

/-- The second half of `sendBodyMetadata`: a length that was not set is that of
the body. -/
def sendContentLength (response : HttpResponse) : HttpResponse :=
  let contentLength := response.getHeader "Content-Length".toList []
  if contentLength = [] then
    ((response.insert "Content-Length: ".toList).insert
      (Nat.toDigits 10 response.getBodyLength)).insert HttpMessage.lineSeparator
  else response

/-- `HttpResponse::sendBodyMetadata`. -/
def sendBodyMetadata (response : HttpResponse) : Bool × HttpResponse :=
  (true, response.sendContentType.sendContentLength)

/-- One header of the loop of `send`. -/
def sendHeader (response : HttpResponse) (header : Text × Text) :
    HttpResponse :=
  (((response.insert header.1).insert [':', ' ']).insert header.2).insert
    HttpMessage.lineSeparator

/-- `HttpResponse::send`.  The result of sending the buffer is not looked
at. -/
def send (response : HttpResponse) (outcomes : List SendOutcome) :
    Bool × HttpResponse :=
  let sep := HttpMessage.lineSeparator
  let started := (response.insert response.buildStatusLine).insert sep
  let metadata := (response.headers.entries.foldl sendHeader started).sendBodyMetadata
  if metadata.1 then
    let finished := (metadata.2.insert sep).insert metadata.2.body
    (true, { finished with socket := (finished.socket.send outcomes).2 })
  else (false, metadata.2)

/-! ## What is written -/

/-- The number in a status line never ends the line. -/
theorem notMem_buildStatusLine {response : HttpResponse}
    (version : '\n' ∉ response.httpVersion)
    (phrase : '\n' ∉ response.reasonPhrase) :
    '\n' ∉ response.buildStatusLine := by
  have code : '\n' ∉ longToString response.statusCode.toInt64 :=
    not_mem_longToString (by decide) (by decide)
  rw [buildStatusLine]
  simp [version, code, phrase]

/-- Lines as they are sent, each of them with a carriage return. -/
def wire (lines : List Text) : Text :=
  terminated '\n' (lines.map (· ++ ['\r']))

/-- The line of a header that was set. -/
def headerLine (header : Text × Text) : Text :=
  header.1 ++ ':' :: ' ' :: header.2

/-- The line made up for a missing type of content. -/
def contentTypeLines (response : HttpResponse) : List Text :=
  if response.getHeader "Content-Type".toList [] = [] ∧
      response.guessContentType ≠ [] then [response.guessContentType]
  else []

/-- The header made up for a missing length. -/
def contentLengthHeaders (response : HttpResponse) : List (Text × Text) :=
  if response.getHeader "Content-Length".toList [] = [] then
    [("Content-Length".toList, Nat.toDigits 10 response.getBodyLength)]
  else []

/-- The lines between the status line and the blank line. -/
def writtenLines (response : HttpResponse) : List Text :=
  response.headers.entries.map headerLine ++ response.contentTypeLines ++
    response.contentLengthHeaders.map headerLine

/-- What is written behind the status line. -/
def block (response : HttpResponse) : Text :=
  wire (response.writtenLines ++ [[]]) ++ response.body

@[simp] theorem insert_insert (response : HttpResponse) (first second : Text) :
    (response.insert first).insert second = response.insert (first ++ second) := by
  simp [insert, SharedSocket.insert]

theorem insert_nil (response : HttpResponse) : response.insert [] = response := by
  simp [insert, SharedSocket.insert]

theorem wire_append (first second : List Text) :
    wire (first ++ second) = wire first ++ wire second := by
  rw [wire, List.map_append, terminated_append]
  rfl

theorem wire_singleton (line : Text) :
    wire [line] = line ++ HttpMessage.lineSeparator := by
  simp [wire, terminated, HttpMessage.lineSeparator]

theorem foldl_sendHeader (headers : List (Text × Text))
    (response : HttpResponse) :
    headers.foldl sendHeader response =
      response.insert (wire (headers.map headerLine)) := by
  induction headers generalizing response with
  | nil => exact response.insert_nil.symm
  | cons header headers ih =>
      rw [List.foldl_cons, ih, List.map_cons, ← List.singleton_append,
        wire_append, wire_singleton, sendHeader]
      simp [headerLine]

theorem sendContentType_eq (response : HttpResponse) :
    response.sendContentType =
      response.insert (wire response.contentTypeLines) := by
  unfold sendContentType contentTypeLines
  by_cases typed : response.getHeader "Content-Type".toList [] = []
  · by_cases guessed : response.guessContentType = []
    · have short : ¬ 0 < response.guessContentType.length := by simp [guessed]
      rw [if_pos typed, if_neg short, if_neg fun both => both.2 guessed]
      exact response.insert_nil.symm
    · have long := List.length_pos_iff.mpr guessed
      rw [if_pos typed, if_pos long, if_pos ⟨typed, guessed⟩, wire_singleton,
        insert_insert]
  · rw [if_neg typed, if_neg fun both => typed both.1]
    exact response.insert_nil.symm

theorem sendContentLength_eq (response : HttpResponse) :
    response.sendContentLength =
      response.insert (wire (response.contentLengthHeaders.map headerLine)) := by
  unfold sendContentLength contentLengthHeaders
  by_cases measured : response.getHeader "Content-Length".toList [] = []
  · rw [if_pos measured, if_pos measured, List.map_singleton, wire_singleton,
      insert_insert, insert_insert]
    rfl
  · rw [if_neg measured, if_neg measured]
    exact response.insert_nil.symm

/-- All that `send` leaves in the output buffer before it is sent. -/
theorem send_eq (response : HttpResponse) (outcomes : List SendOutcome) :
    response.send outcomes =
      (true,
        { response with
          socket := ((response.socket.insert (response.buildStatusLine ++
            HttpMessage.lineSeparator ++ response.block)).send outcomes).2 }) := by
  have pieces : (((response.insert response.buildStatusLine).insert
        HttpMessage.lineSeparator).insert
          (wire (response.headers.entries.map headerLine))).sendBodyMetadata =
      (true, response.insert (response.buildStatusLine ++
        HttpMessage.lineSeparator ++ wire response.writtenLines)) := by
    rw [sendBodyMetadata, sendContentType_eq, sendContentLength_eq,
      writtenLines, wire_append, wire_append]
    simp only [insert_insert, List.append_assoc]
    rfl
  rw [send, foldl_sendHeader, pieces]
  simp only [if_true, insert_insert]
  rw [block, wire_append, wire_singleton]
  simp only [insert, List.append_assoc, List.nil_append]

end HttpResponse

end Concurrente.WebServer.Http
