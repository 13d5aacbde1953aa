import Concurrente.Common.Util

/-!
# Data of a client request

`CalcData` travels along the production line as a pointer, and its units as
`DataUnit` records that name it by address.  A worker builds a private
`CalcData` with a single query for each unit it receives.
-/

namespace Concurrente.WebServer

/-- An object address, as `uintptr_t` holds it. -/
abbrev Address := UInt64

/-- Reasons a call does not return: an exception leaves it, an `assert`
fails, or an address is used that holds no object. -/
inductive Fault where
  | exception (error : StdException)
  | assertion
  | dangling
  deriving DecidableEq, Repr

/-- `CalcData` together with its `ConcurrentData` part.  The pair of HTTP
messages is represented by the number of the client request it belongs to;
the placeholder of a worker has none. -/
structure CalcData where
  exchange : Option Nat
  appIndex : UInt64
  pendingQueries : Nat
  queries : List Int64
  results : List (List Int64)
  deriving DecidableEq, Repr

/-- `DataUnit`. -/
structure DataUnit where
  concurrentData : Address
  resultIndex : UInt64
  deriving DecidableEq, Repr

/-- `WorkUnit`.  The worker owns the `CalcData` it points to. -/
structure WorkUnit where
  concurrentData : CalcData
  resultIndex : UInt64
  originalConcurrentData : Address
  originalResultIndex : UInt64
  deriving DecidableEq, Repr

/-- The live `CalcData` objects of the master process. -/
abbrev Heap := Address → Option CalcData

/-- What the item of a number starts with in the body of a response. -/
def numberHead (number : Text) : Text :=
  "        <div class='number-result'>\n".toList ++
    "          <span class='number-value'>".toList ++ number ++ "</span>".toList

namespace CalcData

/-- `CalcData::resultsPrefix`. -/
def resultsPrefix : Text := "=".toList

/-- `CalcData::updatePending`. -/
def updatePending (data : CalcData) : CalcData :=
  { data with
    pendingQueries := data.queries.length
    results := data.results.take data.queries.length ++
      List.replicate (data.queries.length - data.results.length) [] }

/-- `CalcData::serializeQuery`. -/
def serializeQuery (data : CalcData) (queryIndex : UInt64) :
    Except Fault Text :=
  match data.queries[queryIndex.toNat]? with
  | some query => .ok (longToString query)
  | none => .error .assertion

/-- The text of a list of results: every value is followed by a comma, and the
last character is removed. -/
def resultText (values : List Int64) : Text :=
  (resultsPrefix ++ values.flatMap (fun value => longToString value ++ [','])).dropLast

/-- `CalcData::serializeResult`. -/
def serializeResult (data : CalcData) (queryIndex : UInt64) :
    Except Fault Text :=
  match data.results[queryIndex.toNat]? with
  | some values => .ok (resultText values)
  | none => .error .assertion

/-- `results[resultIndex].push_back(value)`. -/
def pushResult (data : CalcData) (resultIndex : UInt64)
    (value : Int64) : CalcData :=
  { data with
    results := data.results.modify resultIndex.toNat (· ++ [value]) }

/-- The loop of `deserializeResult`: values are stored one by one, and the
first text that is no number ends it with an exception. -/
def storeResults (data : CalcData) (resultIndex : UInt64) :
    List Text → CalcData × Except Fault Unit
  | [] => (data, .ok ())
  | value :: values =>
      match stoll value with
      | .ok number => storeResults (data.pushResult resultIndex number) resultIndex values
      | .error _ =>
          (data, .error (.exception
            (.runtimeError ("Invalid result value: ".toList ++ value))))

/-- `CalcData::deserializeResult`. -/
def deserializeResult (data : CalcData) (resultIndex : UInt64)
    (queryResult : Text) : CalcData × Except Fault Unit :=
  if resultIndex.toNat < data.results.length then
    if queryResult.isEmpty then (data, .ok ())
    else
      let numbersStart :=
        match find resultsPrefix queryResult with
        | some pos => pos + resultsPrefix.length
        | none => 0  -- `npos` plus the length of the prefix wraps around
      data.storeResults resultIndex
        (split (substr queryResult numbersStart) [','] true)
  else (data, .error .assertion)

/-- `CalcData::decompose`, for the object at an address. -/
def decompose (data : CalcData) (address : Address) : List DataUnit :=
  (List.range data.pendingQueries).map fun index =>
    { concurrentData := address, resultIndex := UInt64.ofNat index }

/-- `ConcurrentData::markUnitReady`. -/
def markUnitReady (data : CalcData) : CalcData :=
  { data with pendingQueries :=
      if data.pendingQueries > 0 then data.pendingQueries - 1
      else data.pendingQueries }

/-- `ConcurrentData::isReady`. -/
def isReady (data : CalcData) : Bool := data.pendingQueries == 0

/-- Appends a list of values to one result slot. -/
def appendResults (data : CalcData) (resultIndex : UInt64)
    (values : List Int64) : CalcData :=
  { data with
    results := data.results.modify resultIndex.toNat (· ++ values) }

end CalcData

end Concurrente.WebServer
