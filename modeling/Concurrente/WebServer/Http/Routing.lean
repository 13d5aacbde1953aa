import Concurrente.WebServer.WebApp.CalcWebApp

/-!
# Reading messages from a connection

`WorkerConnectionHandler::route` reads one response of a worker and
`RequestServer::readRequestFromMaster` one request of the master.  Both take
the lines still to be read from the connection; when there is none left,
`readLine` fails.
-/

namespace Concurrente.WebServer

/-- The lines of a text in which every line ends with a line feed. -/
def linesOf (text : Text) : List Text := (text.splitOn '\n').dropLast

/-- The bytes a list of lines came from. -/
def joinLines (lines : List Text) : Text := lines.flatMap (· ++ ['\n'])

namespace WorkerConnectionHandler

/-- What one call of `route` did: the objects it wrote to, the units it
enqueued, the lines it left unread and how it ended. -/
structure Routed where
  heap : Heap
  produced : List DataUnit
  unread : List Text
  outcome : Except Fault Bool

/-- `WorkerConnectionHandler::route`. -/
def route (applications : List HttpApp) (heap : Heap) :
    List Text → Routed
  | [] => { heap, produced := [], unread := [], outcome := .ok false }
  | appIndexStr :: lines =>
      match stoul appIndexStr with
      | .error (.invalidArgument _) =>
          { heap, produced := [], unread := lines, outcome := .ok false }
      | .error error =>
          -- only `invalid_argument` is caught around the conversion
          { heap, produced := [], unread := lines,
            outcome := .error (.exception error) }
      | .ok appIndex =>
          match applications[appIndex.toNat]? with
          | none => { heap, produced := [], unread := lines, outcome := .ok false }
          | some app =>
              if lines.length < responseBufferLinesCount then
                { heap, produced := [], unread := [], outcome := .ok false }
              else
                let buffer := joinLines (lines.take responseBufferLinesCount)
                let unread := lines.drop responseBufferLinesCount
                match app.deserializeResponse heap buffer with
                | (heap', .error fault) =>
                    { heap := heap', produced := [], unread, outcome := .error fault }
                | (heap', .ok none) =>
                    { heap := heap', produced := [], unread, outcome := .ok false }
                | (heap', .ok (some unit)) =>
                    { heap := heap', produced := [unit], unread, outcome := .ok true }

end WorkerConnectionHandler

namespace RequestServer

/-- `RequestServer::readRequestFromMaster`: the work unit read, if any, and
the lines left unread. -/
def readRequestFromMaster (applications : List HttpApp) :
    List Text → Except Fault (Option WorkUnit) × List Text
  | [] => (.ok none, [])
  | buffer :: lines =>
      match stoul buffer with
      | .error (.invalidArgument _) => (.ok none, lines)
      | .error error => (.error (.exception error), lines)
      | .ok appIndex =>
          match applications[appIndex.toNat]? with
          | none => (.ok none, lines)
          | some app =>
              if lines.length < requestBufferLinesCount then (.ok none, [])
              else
                (app.deserializeRequest (joinLines
                    (buffer :: lines.take requestBufferLinesCount)),
                  lines.drop requestBufferLinesCount)

end RequestServer

end Concurrente.WebServer
