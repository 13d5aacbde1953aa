import Concurrente.Common.Conversions

/-!
# Sockets

A `SharedSocket` buffers what is read and what is written in two string
streams.  The operating system is represented by its answers: the chunks that
`::recv` delivers and the outcomes of the calls of `::send`.
-/

namespace Concurrente.WebServer

/-- The state of a `std::istringstream`: the characters not extracted yet and
the two error flags. -/
structure InputStream where
  buffer : Text
  eof : Bool
  fail : Bool
  deriving DecidableEq, Repr

namespace InputStream

/-- A stream over a text, with its flags cleared. -/
def ofText (text : Text) : InputStream :=
  { buffer := text, eof := false, fail := false }

/-- `std::getline`.  A line comes back when the stream still evaluates to
true.  Reaching the end of the text behind some characters sets `eof` only. -/
def getline (stream : InputStream) (separator : Char) :
    Option Text × InputStream :=
  if stream.eof || stream.fail then (none, { stream with fail := true })
  else if stream.buffer.isEmpty then
    (none, { stream with eof := true, fail := true })
  else
    let line := stream.buffer.takeWhile (· != separator)
    match stream.buffer.dropWhile (· != separator) with
    | [] => (some line, { stream with buffer := [], eof := true })
    | _ :: rest => (some line, { stream with buffer := rest })

end InputStream

/-- What one call of `::send` does with the bytes it is offered. -/
inductive SendOutcome where
  /-- at least one byte is accepted, and as many more as the count says -/
  | accepted (more : Nat)
  | disconnected
  | error
  deriving DecidableEq, Repr

/-- The `ssize_t` a call of `::send` returns. -/
def SendOutcome.result (outcome : SendOutcome) (size : Nat) : Int :=
  match outcome with
  | .accepted more => min (more + 1) size
  | .disconnected => 0
  | .error => -1

/-- Conversion of an `ssize_t` to `size_t`. -/
def sizeT (value : Int) : Nat := (value % 2 ^ 64).toNat

/-- `SharedSocket`, with the bytes the operating system has accepted from
it. -/
structure SharedSocket where
  socketFileDescriptor : Int
  output : Text
  input : InputStream
  transmitted : Text
  deriving DecidableEq, Repr

namespace SharedSocket

/-- A socket that has just been connected. -/
def connected (socketFileDescriptor : Nat) : SharedSocket :=
  { socketFileDescriptor := socketFileDescriptor
    output := []
    input := .ofText []
    transmitted := [] }

/-- `SharedSocket::close`. -/
def close (socket : SharedSocket) : SharedSocket :=
  { socket with
    socketFileDescriptor :=
      if 0 ≤ socket.socketFileDescriptor then -1
      else socket.socketFileDescriptor }

/-- Insertion with `<<`. -/
def insert (socket : SharedSocket) (text : Text) : SharedSocket :=
  { socket with output := socket.output ++ text }

/-- What a call of `readLine` leaves: its line, the socket and the chunks the
operating system has not delivered yet. -/
structure LineRead where
  line : Option Text
  socket : SharedSocket
  pending : List Text

/-- `Socket::readLine`.  `receive` refills the stream from a zeroed buffer of
65535 bytes, which is read as a C string; when no chunk is left the peer has
disconnected. -/
def readLine (socket : SharedSocket) (separator : Char) :
    List Text → LineRead
  | [] =>
      match socket.input.getline separator with
      | (some line, input) =>
          { line := some line, socket := { socket with input }, pending := [] }
      | (none, input) =>
          { line := none, socket := close { socket with input }, pending := [] }
  | chunk :: chunks =>
      match socket.input.getline separator with
      | (some line, input) =>
          { line := some line, socket := { socket with input },
            pending := chunk :: chunks }
      | (none, input) =>
          if socket.socketFileDescriptor < 0 then
            -- `::recv` returns -1 for a closed descriptor
            { line := none, socket := { socket with input },
              pending := chunk :: chunks }
          else
            readLine { socket with input := .ofText (cString chunk) }
              separator chunks

/-- The lines of successive calls of `readLine`, up to the first that fails. -/
def readLines (separator : Char) :
    Nat → SharedSocket → List Text → List Text
  | 0, _, _ => []
  | calls + 1, socket, chunks =>
      match socket.readLine separator chunks with
      | { line := some line, socket, pending } =>
          line :: readLines separator calls socket pending
      | { line := none, .. } => []

/-- The loop of `Socket::write`: the value it returns and the socket.  Once
the given outcomes are used up, `::send` accepts all it is offered. -/
def write (socket : SharedSocket) (buffer : Text) (sent : Nat) :
    List SendOutcome → Int × SharedSocket
  | [] =>
      if socket.socketFileDescriptor < 0 then (-1, socket)
      else if buffer.isEmpty then (0, socket.close)
      else
        (sent + buffer.length,
          { socket with transmitted := socket.transmitted ++ buffer })
  | outcome :: outcomes =>
      let result :=
        if socket.socketFileDescriptor < 0 then -1
        else outcome.result buffer.length
      if result = 0 then (0, socket.close)
      else if result ≤ 0 then (result, socket)
      else
        let count := result.toNat
        let socket :=
          { socket with transmitted := socket.transmitted ++ buffer.take count }
        if buffer.length ≤ count then (sent + count, socket)
        else write socket (buffer.drop count) (sent + count) outcomes

/-- `Socket::send`.  The result of `write` is compared as a `size_t` and
returned as a `bool`. -/
def send (socket : SharedSocket) (outcomes : List SendOutcome) :
    Bool × SharedSocket :=
  let length := socket.output.length
  let (result, socket) := socket.write socket.output 0 outcomes
  let socket :=
    if length ≤ sizeT result then { socket with output := [] } else socket
  (result ≠ 0, socket)

end SharedSocket

end Concurrente.WebServer
