import Concurrente.WebServer.Http.ClientSession
import Concurrente.WebServer.Http.ResponseHeader

/-!
# The responses of a connection

The responses to a client follow one another on its connection.  The
applications set the type of content of all their pages and leave the length to
`sendBodyMetadata`, so a client can tell where each response ends.
-/

namespace Concurrente.WebServer.Http

open Library

/-! ## Reading several responses -/

/-- What a client reads of a response. -/
structure ReadResponse where
  statusLine : Text
  headers : Headers
  body : Text

/-- The response was read as it is. -/
structure ReadResponse.Restores (read : ReadResponse) (response : HttpResponse) :
    Prop where
  statusLine : read.statusLine = response.buildStatusLine
  headers : ∀ key value, response.headers.find key = some value →
    read.headers.find key = some value
  body : read.body = response.body

/-- A client reads a line, a header block and as many characters as the block
says. -/
def readResponse (text : Text) : Option (ReadResponse × Text) :=
  let statusLine := text.takeWhile (· != '\n')
  let parsed := readBlock (.connected 0) [] (text.dropWhile (· != '\n')).tail
  let size := Nat.ofDigitChars 10
    (parsed.request.getHeader "Content-Length".toList []) 0
  let buffer := parsed.request.socket.input.buffer
  if parsed.succeeded then
    some
      ({ statusLine := removeTrailingCR statusLine
         headers := parsed.request.headers
         body := buffer.take size }, buffer.drop size)
  else none

/-- A client reads some responses, one after another. -/
def readResponses : Nat → Text → Option (List ReadResponse × Text)
  | 0, text => some ([], text)
  | count + 1, text => do
      let (first, rest) ← readResponse text
      let (others, rest) ← readResponses count rest
      return (first :: others, rest)

/-- A response whose end can be found. -/
structure HttpResponse.Framed (response : HttpResponse) : Prop where
  plain : response.headers.Plain
  typed : response.getHeader "Content-Type".toList [] ≠ []
  unmeasured : response.headers.find "Content-Length".toList = none
  status : '\n' ∉ response.buildStatusLine

namespace HttpResponse.Framed

variable {response : HttpResponse} (framed : response.Framed)

include framed

/-- The header block is read back, whatever follows the response. -/
theorem readBlock_append (reader : SharedSocket) (pending : List Text)
    (rest : Text) :
    readBlock reader pending (response.block ++ rest) =
      { succeeded := true
        request :=
          { HttpRequest.ofSocket
              { reader with input := .ofText (response.body ++ rest) } with
            headers := (OrderedMap.empty ignoreCase).assignAll
              response.writtenHeaders }
        pending } := by
  have typed : response.contentTypeLines = [] :=
    response.contentTypeLines_eq_nil_iff.mpr (.inl framed.typed)
  let lines := response.writtenHeaders.map fun header =>
    headerLine header ++ ['\r']
  have shape : (response.writtenLines ++ [[]]).map (· ++ ['\r']) =
      lines ++ [['\r']] := by
    simp [lines, writtenLines, writtenHeaders, typed, Function.comp_def]
  have text : response.block ++ rest =
      terminated '\n' (lines ++ [['\r']]) ++ (response.body ++ rest) := by
    rw [block, wire, shape, List.append_assoc]
  have reads := SharedSocket.readsLines_terminated
    (plain_writtenLines framed.plain) reader (response.body ++ rest) pending
  rw [shape, ← text] at reads
  have colons : ∀ line ∈ lines, ':' ∈ line := by
    intro line member
    obtain ⟨header, _, rfl⟩ := List.mem_map.mp member
    exact colon_mem_headerLine header
  have pairs : lines.map headerPair = response.writtenHeaders := by
    rw [List.map_map]
    conv_rhs => rw [← List.map_id response.writtenHeaders]
    apply List.map_congr_left
    intro header member
    exact headerPair_headerLine
      (plain_writtenHeaders framed.plain header member).1
  have parsed := @HttpRequest.parseHeader_readsLines
    (HttpRequest.ofSocket
      { reader with input := .ofText (response.block ++ rest) })
    pending pending _ lines ['\r'] reads colons rfl
  rw [pairs] at parsed
  exact parsed

/-- A response is read back, and the client stops where it ends. -/
theorem readResponse_text (rest : Text) :
    ∃ read, readResponse (response.text ++ rest) = some (read, rest) ∧
      read.Restores response := by
  have line : '\n' ∉ response.buildStatusLine ++ ['\r'] := by
    simp [framed.status]
  have shape : response.text ++ rest =
      (response.buildStatusLine ++ ['\r']) ++
        '\n' :: (response.block ++ rest) := by
    simp [text, HttpMessage.lineSeparator]
  have noLength : response.getHeader "Content-Length".toList [] = [] :=
    (HttpMessage.getHeader_eq_nil_iff _ _).mpr (.inl framed.unmeasured)
  have length : ((OrderedMap.empty ignoreCase).assignAll
      response.writtenHeaders).find "Content-Length".toList =
        some (Nat.toDigits 10 response.body.length) := by
    rw [find_writtenHeaders, if_pos ⟨noLength, rfl⟩]
    rfl
  have statusLine : removeTrailingCR (response.buildStatusLine ++ ['\r']) =
      response.buildStatusLine := by
    simp [removeTrailingCR]
  refine ⟨{ statusLine := response.buildStatusLine
            headers := (OrderedMap.empty ignoreCase).assignAll
              response.writtenHeaders
            body := response.body }, ?_, ?_⟩
  · rw [readResponse, shape, takeWhile_line line, dropWhile_line line,
      List.tail_cons, framed.readBlock_append, HttpMessage.getHeader]
    simp only [length, Option.getD_some, Nat.ofDigitChars_ten_toDigits, if_true,
      statusLine]
    rw [show (HttpRequest.ofSocket
      { SharedSocket.connected 0 with
        input := .ofText (response.body ++ rest) }).socket.input.buffer =
          response.body ++ rest from rfl, List.take_left, List.drop_left]
  · constructor
    · rfl
    · intro key value found
      apply find_writtenHeaders_of_set _ found
      rw [framed.unmeasured]
      simp
    · rfl

end HttpResponse.Framed

/-! ## Pages of the applications -/

/-- `CalcData::formatResponse`, into the body of the response. -/
def AskedData.formatResponse (data : AskedData) (results : List (List Int64)) :
    Checked HttpResponse :=
  (data.app.formatResponse data.request.uri results).map data.response.write

/-- A response that answers a request, at once or when there are results. -/
inductive PlainRequest.AnsweredBy (applications : List WebApp)
    (message : PlainRequest) : HttpResponse → Prop where
  | atOnce {app : WebApp} {response : HttpResponse} :
      app ∈ applications →
      app.takes message.method message.uri = true →
      app.answer message.uri
          (.ofSocket (.connected 0) message.httpVersion) = .ok (some response) →
      AnsweredBy applications message response
  | later {data : AskedData} {results : List (List Int64)}
      {response : HttpResponse} :
      message.Handled applications (.asked data) →
      data.formatResponse results = .ok response →
      AnsweredBy applications message response

/-- The headers of a page. -/
def pageHeaders (server contentType : Text) : Headers :=
  ((OrderedMap.empty ignoreCase).assign "Server".toList server).assign
    "Content-type".toList contentType

/-- What all pages have in common. -/
structure HttpResponse.IsPage (response : HttpResponse) (httpVersion : Text) :
    Prop where
  httpVersion : response.httpVersion = httpVersion
  server : (response.statusCode = 200 ∧ response.reasonPhrase = [] ∧
      response.headers = pageHeaders "AttoServer v1.2".toList
        "text/html; charset=utf-8".toList) ∨
    response.statusCode = 404 ∧ response.reasonPhrase = "Not Found".toList ∧
      response.headers = pageHeaders "AttoServer v1.0".toList
        "text/html; charset=ascii".toList

namespace HttpResponse

theorem IsPage.write {response : HttpResponse} {httpVersion : Text}
    (page : response.IsPage httpVersion) (text : Text) :
    (response.write text).IsPage httpVersion :=
  ⟨page.httpVersion, page.server⟩

theorem isPage_serveHeader (socket : SharedSocket) (httpVersion title : Text) :
    (HomeWebApp.serveHeader (.ofSocket socket httpVersion) title).IsPage
      httpVersion :=
  ⟨rfl, .inl ⟨rfl, rfl, rfl⟩⟩

theorem isPage_notFoundPage (socket : SharedSocket) (httpVersion : Text) :
    (NotFoundWebApp.notFoundPage (.ofSocket socket httpVersion)).IsPage
      httpVersion := by
  have status : (setStatusCode (.ofSocket socket httpVersion) 404 []).2 =
      { HttpResponse.ofSocket socket httpVersion with
        statusCode := 404, reasonPhrase := "Not Found".toList } := rfl
  rw [NotFoundWebApp.notFoundPage, status]
  exact ⟨rfl, .inr ⟨rfl, rfl, rfl⟩⟩

theorem entries_pageHeaders (server contentType : Text) :
    (pageHeaders server contentType).entries =
      [("Content-type".toList, contentType), ("Server".toList, server)] := rfl

/-- With the headers of a page, and a status line that is one line, the end of
the response can be found. -/
theorem framed_of_pageHeaders {response : HttpResponse} {server contentType : Text}
    (headers : response.headers = pageHeaders server contentType)
    (server_line : '\n' ∉ server) (type_line : '\n' ∉ contentType)
    (typed : contentType ≠ []) (version_line : '\n' ∉ response.httpVersion)
    (phrase_line : '\n' ∉ response.reasonPhrase) : response.Framed := by
  constructor
  · rw [Headers.Plain, headers, entries_pageHeaders]
    intro header member
    have keys : ∀ key ∈ ["Content-type".toList, "Server".toList],
        ':' ∉ key ∧ '\n' ∉ key := by decide
    rcases List.mem_cons.mp member with rfl | later
    · have key := keys "Content-type".toList (by simp)
      exact ⟨key.1, key.2, type_line⟩
    · have key := keys "Server".toList (by simp)
      rw [List.mem_singleton.mp later]
      exact ⟨key.1, key.2, server_line⟩
  · have found : response.headers.find "Content-Type".toList =
        some contentType := by
      rw [headers]
      rfl
    rw [HttpMessage.getHeader, found]
    exact typed
  · rw [headers]
    rfl
  · exact notMem_buildStatusLine version_line phrase_line

theorem IsPage.framed {response : HttpResponse} {httpVersion : Text}
    (page : response.IsPage httpVersion) (line : '\n' ∉ httpVersion) :
    response.Framed := by
  obtain ⟨rfl, ⟨-, phrase, headers⟩ | ⟨-, phrase, headers⟩⟩ := page
  · apply framed_of_pageHeaders headers (by decide) (by decide) (by decide) line
    rw [phrase]
    exact List.not_mem_nil
  · apply framed_of_pageHeaders headers (by decide) (by decide) (by decide) line
    rw [phrase]
    decide

end HttpResponse

/-- Every application answers with a page. -/
theorem WebApp.isPage_answer {app : WebApp} {uri httpVersion : Text}
    {socket : SharedSocket} {response : HttpResponse}
    (answered : app.answer uri (.ofSocket socket httpVersion) =
      .ok (some response)) : response.IsPage httpVersion := by
  cases app with
  | home =>
      cases answered
      apply HttpResponse.IsPage.write
      apply HttpResponse.IsPage.write
      apply HttpResponse.IsPage.write
      apply HttpResponse.IsPage.write
      exact HttpResponse.isPage_serveHeader _ _ _
  | notFound =>
      cases answered
      exact HttpResponse.isPage_notFoundPage _ _
  | calculator app =>
      rw [answer] at answered
      by_cases none : (parseRequest uri []).isEmpty = true
      · simp only [if_pos none] at answered
        cases formatted : app.formatResponse uri [] with
        | error fault =>
            rw [formatted] at answered
            cases answered
        | ok page =>
            rw [formatted] at answered
            cases answered
            apply HttpResponse.IsPage.write
            exact HttpResponse.isPage_serveHeader _ _ _
      · simp only [if_neg none] at answered
        cases answered

theorem PlainRequest.AnsweredBy.isPage {applications : List WebApp}
    {message : PlainRequest} {response : HttpResponse}
    (answered : message.AnsweredBy applications response) :
    response.IsPage message.httpVersion := by
  cases answered with
  | atOnce _ _ answer => exact WebApp.isPage_answer answer
  | @later data results _ handled formatted =>
      cases handled with
      | @asked before after app socket split others taken some =>
          rw [AskedData.formatResponse] at formatted
          dsimp only at formatted
          cases page : app.formatResponse (message.parsed socket).uri results with
          | error fault =>
              rw [page] at formatted
              cases formatted
          | ok page' =>
              rw [page] at formatted
              cases formatted
              apply HttpResponse.IsPage.write
              exact HttpResponse.isPage_serveHeader _ _ _

/-! ## Sending several responses -/

/-- Responses that are sent on one connection, one after another. -/
def sendAll (socket : SharedSocket) :
    List (HttpResponse × List SendOutcome) → SharedSocket
  | [] => socket
  | (response, outcomes) :: sends =>
      sendAll ((response.onSocket socket).send outcomes).2.socket sends

theorem transmitted_sendAll {sends : List (HttpResponse × List SendOutcome)}
    (accepted : ∀ send ∈ sends, send.1.text.length < 2 ^ 64 ∧
      acceptsAll send.1.text.length send.2 = true)
    {socket : SharedSocket} (openSocket : 0 ≤ socket.socketFileDescriptor)
    (nothing : socket.output = []) :
    (sendAll socket sends).transmitted =
      socket.transmitted ++ sends.flatMap fun send => send.1.text := by
  induction sends generalizing socket with
  | nil => exact (List.append_nil _).symm
  | cons send sends ih =>
      obtain ⟨response, outcomes⟩ := send
      obtain ⟨small, whole⟩ := accepted _ List.mem_cons_self
      have sent := @HttpResponse.send_accepted (response.onSocket socket)
        outcomes openSocket nothing small whole
      rw [sendAll, sent, List.flatMap_cons, ← List.append_assoc]
      exact ih (fun other member => accepted other (.tail _ member))
        openSocket nothing

/-- Framed responses are read back one by one. -/
theorem readResponses_texts {responses : List HttpResponse}
    (framed : ∀ response ∈ responses, response.Framed) (rest : Text) :
    ∃ reads,
      readResponses responses.length
          (responses.flatMap HttpResponse.text ++ rest) = some (reads, rest) ∧
        List.Forall₂ ReadResponse.Restores reads responses := by
  induction responses with
  | nil => exact ⟨[], rfl, .nil⟩
  | cons response responses ih =>
      obtain ⟨reads, others, restored⟩ :=
        ih fun other member => framed other (.tail _ member)
      obtain ⟨read, first, same⟩ :=
        (framed response List.mem_cons_self).readResponse_text
          (responses.flatMap HttpResponse.text ++ rest)
      refine ⟨read :: reads, ?_, .cons same restored⟩
      rw [List.flatMap_cons, List.append_assoc, List.length_cons, readResponses,
        first]
      simp only [Option.bind_eq_bind, Option.bind_some, others]
      rfl

/-- The responses to requests, whether they were sent at once or when there were
results, are read back by the client: as many as were sent, each with its
status line, its headers and its body. -/
theorem answers_read {applications : List WebApp}
    {sends : List (HttpResponse × List SendOutcome)}
    (answers : ∀ send ∈ sends,
      ∃ message : PlainRequest, message.AnsweredBy applications send.1)
    (accepted : ∀ send ∈ sends, send.1.text.length < 2 ^ 64 ∧
      acceptsAll send.1.text.length send.2 = true) (socketFileDescriptor : Nat) :
    ∃ reads,
      readResponses sends.length
          (sendAll (.connected socketFileDescriptor) sends).transmitted =
        some (reads, []) ∧
      List.Forall₂ ReadResponse.Restores reads (sends.map Prod.fst) := by
  have framed : ∀ response ∈ sends.map Prod.fst, response.Framed := by
    intro response member
    obtain ⟨send, sent, rfl⟩ := List.mem_map.mp member
    obtain ⟨message, answered⟩ := answers send sent
    have line : '\n' ∉ message.httpVersion := by
      intro inside
      have solid := (message.words message.httpVersion (by simp)).2 '\n' inside
      cases solid.1
    exact answered.isPage.framed line
  obtain ⟨reads, result, restored⟩ := readResponses_texts framed []
  have transmitted := @transmitted_sendAll sends accepted
    (.connected socketFileDescriptor) (Int.natCast_nonneg _) rfl
  refine ⟨reads, ?_, restored⟩
  rw [List.length_map, List.append_nil, List.flatMap_map] at result
  rw [transmitted]
  exact result

/-- Two pages, of one of which some bytes are accepted first. -/
theorem answers_read_sample :
    let unknown := NotFoundWebApp.notFoundPage
      (.ofSocket (.connected 0) askUnknown.httpVersion)
    ∃ reads,
      readResponses 2 (sendAll (.connected 3)
          [(unknown, [.accepted 99]), (unknown, [])]).transmitted =
        some (reads, []) ∧
      List.Forall₂ ReadResponse.Restores reads [unknown, unknown] := by
  intro unknown
  have answers : ∀ send ∈ [(unknown, [SendOutcome.accepted 99]), (unknown, [])],
      ∃ message : PlainRequest, message.AnsweredBy mainChain send.1 := by
    intro send member
    have page : send.1 = unknown := by
      rcases List.mem_cons.mp member with rfl | later
      · rfl
      · rw [List.mem_singleton.mp later]
    rw [page]
    exact ⟨askUnknown, @PlainRequest.AnsweredBy.atOnce _ _ .notFound _
      (by decide) (by decide) rfl⟩
  have small : unknown.text.length < 2 ^ 64 := by decide +kernel
  apply answers_read answers _ 3
  intro send member
  rcases List.mem_cons.mp member with rfl | later
  · constructor
    · exact small
    · apply SharedSocket.acceptsAll_of_accepting
      intro outcome accepting
      exact ⟨99, List.mem_singleton.mp accepting⟩
  · rw [List.mem_singleton.mp later]
    constructor
    · exact small
    · rfl

end Concurrente.WebServer.Http
