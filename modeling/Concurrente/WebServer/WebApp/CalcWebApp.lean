import Concurrente.WebServer.WebApp.CalcData

/-!
# Texts exchanged by master and workers

The master writes a unit as four lines (application, address of the data,
index, query).  A worker answers with four lines as well, the last one holding
the list of results.
-/

namespace Concurrente.WebServer

/-- `REQUEST_BUFFER_LINES_COUNT`: lines after the application index. -/
def requestBufferLinesCount : Nat := 3

/-- `RESPONSE_BUFFER_LINES_COUNT`: lines after the application index. -/
def responseBufferLinesCount : Nat := 3

/-- What a concurrent application overrides: `CalcData::processQuery` for one
query and the result slot it writes to. -/
structure CalcWebApp where
  processQuery : Int64 → List Int64 → List Int64

/-- An entry of the chain of applications. -/
inductive HttpApp where
  /-- answers at once, keeps the default members of the base class -/
  | page
  | calc (app : CalcWebApp)

/-- The four lines of a message. -/
def messageText (first second third fourth : Text) : Text :=
  first ++ '\n' :: (second ++ '\n' :: (third ++ '\n' :: (fourth ++ ['\n'])))

namespace CalcWebApp

/-- `CalcWebApp::serializeRequest`. -/
def serializeRequest (heap : Heap) (unit : DataUnit) : Except Fault Text :=
  match heap unit.concurrentData with
  | none => .error .dangling
  | some data => do
      let query ← data.serializeQuery unit.resultIndex
      return messageText (unsignedToString data.appIndex)
        (unsignedToString unit.concurrentData)
        (unsignedToString unit.resultIndex) query

/-- `createWorkUnit` of either application. -/
def createWorkUnit (appIndex : UInt64) (originalData : Address)
    (originalResultIndex : UInt64) (query : Int64) : WorkUnit :=
  { concurrentData := CalcData.updatePending
      { exchange := none, appIndex := appIndex, pendingQueries := 0,
        queries := [query], results := [] }
    resultIndex := 0
    originalConcurrentData := originalData
    originalResultIndex := originalResultIndex }

/-- The conversions inside the `try` block of `deserializeRequest`. -/
def requestFields (request : List Text) :
    Except StdException (UInt64 × Address × UInt64 × Int64) := do
  let appIndex ← stoul request[0]!
  let originalData ← stoul request[1]!
  if originalData = 0 then
    throw (.runtimeError "invalid data address".toList)
  let originalResultIndex ← stoul request[2]!
  let query ← stoll request[3]!
  return (appIndex, originalData, originalResultIndex, query)

/-- `CalcWebApp::deserializeRequest`. -/
def deserializeRequest (requestData : Text) : Except Fault WorkUnit :=
  if requestData.isEmpty then .error .assertion
  else
    let request := split requestData ['\n'] true
    if request.length < requestBufferLinesCount + 1 then
      .error (.exception
        (.runtimeError ("Invalid request format ".toList ++ requestData)))
    else
      match requestFields request with
      | .error _ => .error (.exception
          (.runtimeError ("Invalid serial CalcData: ".toList ++ requestData)))
      | .ok (appIndex, originalData, originalResultIndex, query) =>
          .ok (createWorkUnit appIndex originalData originalResultIndex query)

/-- The conversions inside the `try` block of `deserializeResponse`. -/
def responseFields (response : List Text) :
    Except StdException (Address × UInt64) := do
  let originalData ← stoul response[0]!
  if originalData = 0 then
    throw (.runtimeError "invalid data address".toList)
  let resultIndex ← stoul response[1]!
  return (originalData, resultIndex)

/-- `CalcWebApp::deserializeResponse`.  The heap comes back also when an
exception leaves the call. -/
def deserializeResponse (heap : Heap) (responseData : Text) :
    Heap × Except Fault DataUnit :=
  if responseData.isEmpty then (heap, .error .assertion)
  else
    let response := split responseData ['\n'] false
    if response.length < responseBufferLinesCount then
      (heap, .error (.exception
        (.runtimeError ("Invalid response format ".toList ++ responseData))))
    else
      match responseFields response with
      | .error _ => (heap, .error (.exception
          (.runtimeError ("Invalid serial CalcData: ".toList ++ responseData))))
      | .ok (originalData, resultIndex) =>
          match heap originalData with
          | none => (heap, .error .dangling)
          | some data =>
              let (stored, outcome) :=
                data.deserializeResult resultIndex (cString response[2]!)
              (Function.update heap originalData (some stored),
                outcome.map fun _ =>
                  { concurrentData := originalData, resultIndex := resultIndex })

end CalcWebApp

namespace HttpApp

/-- `serializeRequest` of an entry of the chain. -/
def serializeRequest (app : HttpApp) (heap : Heap) (unit : DataUnit) :
    Except Fault Text :=
  match app with
  | .page => .ok []
  | .calc _ => CalcWebApp.serializeRequest heap unit

/-- `deserializeRequest` of an entry of the chain. -/
def deserializeRequest (app : HttpApp) (requestData : Text) :
    Except Fault (Option WorkUnit) :=
  match app with
  | .page => .ok none
  | .calc _ => (CalcWebApp.deserializeRequest requestData).map some

/-- `deserializeResponse` of an entry of the chain. -/
def deserializeResponse (app : HttpApp) (heap : Heap) (responseData : Text) :
    Heap × Except Fault (Option DataUnit) :=
  match app with
  | .page => (heap, .ok none)
  | .calc _ =>
      let (heap', outcome) := CalcWebApp.deserializeResponse heap responseData
      (heap', outcome.map some)

end HttpApp

/-- `WorkUnit::serializeResponse`. -/
def WorkUnit.serializeResponse (unit : WorkUnit) : Except Fault Text := do
  let result ← unit.concurrentData.serializeResult unit.resultIndex
  return messageText (unsignedToString unit.concurrentData.appIndex)
    (unsignedToString unit.originalConcurrentData)
    (unsignedToString unit.originalResultIndex) result

end Concurrente.WebServer
