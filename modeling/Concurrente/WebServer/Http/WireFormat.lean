import Concurrente.WebServer.Http.Routing

/-!
# Round trips of the wire formats

The encoders and decoders of the master/worker protocol are written in
different classes.  Every message an encoder writes is four complete lines, and
the decoder of the other side recovers exactly the values that were encoded.
-/

namespace Concurrente.WebServer

/-! ## Lines -/

theorem newline_notMem_unsignedToString (value : UInt64) :
    '\n' ∉ unsignedToString value :=
  not_mem_unsignedToString (by decide)

theorem newline_notMem_longToString (value : Int64) :
    '\n' ∉ longToString value :=
  not_mem_longToString (by decide) (by decide)

theorem linesOf_cons {line : Text} (whole : '\n' ∉ line) (rest : Text) :
    linesOf (line ++ '\n' :: rest) = line :: linesOf rest := by
  unfold linesOf
  rw [List.splitOn_append_cons_self_of_not_mem whole,
    List.dropLast_cons_of_ne_nil (List.splitOn_ne_nil _ _)]

@[simp] theorem linesOf_nil : linesOf [] = [] := by
  simp [linesOf]

/-- A message whose parts hold no line feed is delivered as four lines. -/
theorem linesOf_messageText {first second third fourth : Text}
    (wholeFirst : '\n' ∉ first) (wholeSecond : '\n' ∉ second)
    (wholeThird : '\n' ∉ third) (wholeFourth : '\n' ∉ fourth) (rest : Text) :
    linesOf (messageText first second third fourth ++ rest) =
      first :: second :: third :: fourth :: linesOf rest := by
  simp only [messageText, List.append_assoc, List.cons_append,
    List.nil_append]
  rw [linesOf_cons wholeFirst, linesOf_cons wholeSecond,
    linesOf_cons wholeThird, linesOf_cons wholeFourth]

/-- The buffer `route` assembles splits into its lines and one empty token. -/
theorem split_joinLines {lines : List Text}
    (whole : ∀ line ∈ lines, '\n' ∉ line) :
    split (joinLines lines) ['\n'] false = lines ++ [[]] := by
  rw [split_char]
  induction lines with
  | nil => simp [joinLines]
  | cons line lines ih =>
      have tail := ih fun other member => whole other (.tail _ member)
      have shape : joinLines (line :: lines) = line ++ '\n' :: joinLines lines := by
        simp [joinLines]
      rw [shape, List.splitOn_append_cons_self_of_not_mem
        (whole line List.mem_cons_self), tail]
      rfl

/-! ## Lists of results -/

private theorem flatMap_comma_dropLast (tokens : List Text) :
    (tokens.flatMap (· ++ [','])).dropLast = [','].intercalate tokens := by
  induction tokens with
  | nil => simp
  | cons token tokens ih =>
      cases tokens with
      | nil => simp
      | cons next tokens =>
          have nonempty : (next :: tokens).flatMap (· ++ [',']) ≠ [] := by simp
          have joined : [','].intercalate (token :: next :: tokens) =
              token ++ [','] ++ [','].intercalate (next :: tokens) := by
            simp [List.intercalate]
          rw [List.flatMap_cons, List.dropLast_append_of_ne_nil nonempty, ih,
            joined]

theorem resultText_nil : CalcData.resultText [] = [] := by
  simp [CalcData.resultText, CalcData.resultsPrefix]

theorem resultText_of_ne_nil {values : List Int64} (nonempty : values ≠ []) :
    CalcData.resultText values =
      '=' :: [','].intercalate (values.map longToString) := by
  have later : (values.map longToString).flatMap (· ++ [',']) ≠ [] := by
    cases values with
    | nil => exact (nonempty rfl).elim
    | cons value values => simp
  unfold CalcData.resultText
  rw [← List.flatMap_map longToString (· ++ [',']),
    List.dropLast_append_of_ne_nil later, flatMap_comma_dropLast]
  rfl

/-- The characters of a list of results. -/
theorem mem_resultText {values : List Int64} {c : Char}
    (member : c ∈ CalcData.resultText values) :
    c = '=' ∨ c = ',' ∨ c = '-' ∨ c.isDigit = true := by
  have inside := List.dropLast_subset _ member
  simp only [CalcData.resultsPrefix, List.mem_append, List.mem_flatMap,
    List.mem_singleton] at inside
  rcases inside with sign | ⟨value, _, number | comma⟩
  · exact .inl (by simpa using sign)
  · exact .inr (.inr (mem_longToString number))
  · exact .inr (.inl comma)

theorem newline_notMem_resultText (values : List Int64) :
    '\n' ∉ CalcData.resultText values := by
  intro member
  rcases mem_resultText member with h | h | h | h <;> simp at h

theorem cString_resultText (values : List Int64) :
    cString (CalcData.resultText values) = CalcData.resultText values := by
  apply cString_of_notMem
  intro member
  rcases mem_resultText member with h | h | h | h <;> simp at h

/-- Splitting at commas recovers the printed values. -/
theorem split_values {values : List Int64} (nonempty : values ≠ []) :
    split ([','].intercalate (values.map longToString)) [','] true =
      values.map longToString := by
  have tokens : ([','].intercalate (values.map longToString)).splitOn ',' =
      values.map longToString := by
    apply List.splitOn_intercalate
    · intro token member
      obtain ⟨value, _, rfl⟩ := List.mem_map.mp member
      exact not_mem_longToString (by decide) (by decide)
    · simpa using nonempty
  rw [split_trim, split_char, tokens, List.filter_eq_self]
  intro token member
  obtain ⟨value, _, rfl⟩ := List.mem_map.mp member
  simpa using longToString_ne_nil value

namespace CalcData

theorem appendResults_nil (data : CalcData) (index : UInt64) :
    data.appendResults index [] = data := by
  have unchanged : data.results.modify index.toNat (· ++ []) = data.results := by
    apply List.ext_getElem (by simp)
    intro i _ _
    simp [List.getElem_modify]
  simp only [appendResults, unchanged]

/-- When all pieces are numbers, they are appended to the slot. -/
theorem storeResults_of_ok {data : CalcData} {index : UInt64}
    {pieces : List Text} {values : List Int64}
    (numbers : pieces.mapM stoll = .ok values) :
    data.storeResults index pieces = (data.appendResults index values, .ok ()) := by
  induction pieces generalizing data values with
  | nil =>
      obtain rfl : values = [] := by
        cases numbers
        rfl
      rw [appendResults_nil]
      rfl
  | cons piece pieces ih =>
      rw [List.mapM_cons] at numbers
      cases first : stoll piece with
      | error error =>
          rw [first] at numbers
          cases numbers
      | ok value =>
          rw [first] at numbers
          cases others : pieces.mapM stoll with
          | error error =>
              rw [others] at numbers
              cases numbers
          | ok later =>
              rw [others] at numbers
              cases numbers
              have merged : (data.pushResult index value).appendResults index later =
                  data.appendResults index (value :: later) := by
                simp [pushResult, appendResults, List.modify_modify_eq,
                  Function.comp_def]
              simp only [storeResults, first, ih others, merged]

theorem mapM_stoll_longToString (values : List Int64) :
    (values.map longToString).mapM stoll = .ok values := by
  induction values with
  | nil => rfl
  | cons value values ih =>
      rw [List.map_cons, List.mapM_cons, stoll_longToString, ih]
      rfl

/-- `deserializeResult` inverts `serializeResult`. -/
theorem deserializeResult_resultText (data : CalcData) (index : UInt64)
    (values : List Int64) (inside : index.toNat < data.results.length) :
    data.deserializeResult index (resultText values) =
      (data.appendResults index values, .ok ()) := by
  by_cases empty : values = []
  · subst values
    simp [deserializeResult, inside, resultText_nil, appendResults_nil]
  · have located : find resultsPrefix (resultText values) = some 0 := by
      rw [resultText_of_ne_nil empty]
      simp [find, resultsPrefix]
    have numbers : substr (resultText values) 1 =
        [','].intercalate (values.map longToString) := by
      simp [resultText_of_ne_nil empty, substr]
    have nonempty : (resultText values).isEmpty = false := by
      simp [resultText_of_ne_nil empty]
    simp only [deserializeResult, inside, nonempty, located]
    simp [resultsPrefix, numbers, split_values empty,
      storeResults_of_ok (mapM_stoll_longToString values)]

end CalcData

/-! ## Responses -/

namespace WorkUnit

/-- The values a unit reports. -/
def values (unit : WorkUnit) : List Int64 :=
  (unit.concurrentData.results[unit.resultIndex.toNat]?).getD []

/-- The record of the master that a unit answers. -/
def original (unit : WorkUnit) : DataUnit :=
  { concurrentData := unit.originalConcurrentData
    resultIndex := unit.originalResultIndex }

/-- A unit a worker has processed, read against the objects of the master. -/
structure Finished (applications : List HttpApp) (heap : Heap)
    (unit : WorkUnit) : Prop where
  registered : ∃ app,
    applications[unit.concurrentData.appIndex.toNat]? = some (.calc app)
  processed : unit.resultIndex.toNat < unit.concurrentData.results.length
  address : unit.originalConcurrentData ≠ 0
  range : ∃ data, heap unit.originalConcurrentData = some data ∧
    unit.originalResultIndex.toNat < data.results.length

/-- The text `serializeResponse` writes. -/
def responseText (unit : WorkUnit) : Text :=
  messageText (unsignedToString unit.concurrentData.appIndex)
    (unsignedToString unit.originalConcurrentData)
    (unsignedToString unit.originalResultIndex)
    (CalcData.resultText unit.values)

theorem serializeResponse_eq {unit : WorkUnit}
    (processed : unit.resultIndex.toNat < unit.concurrentData.results.length) :
    unit.serializeResponse = .ok unit.responseText := by
  simp [serializeResponse, CalcData.serializeResult, responseText, values,
    processed]

end WorkUnit

namespace Heap

/-- Appends values to one result slot of one object. -/
def append (heap : Heap) (unit : DataUnit) (values : List Int64) : Heap :=
  Function.update heap unit.concurrentData
    ((heap unit.concurrentData).map (·.appendResults unit.resultIndex values))

theorem append_of_ne {heap : Heap} {unit : DataUnit} {values : List Int64}
    {address : Address} (other : address ≠ unit.concurrentData) :
    heap.append unit values address = heap address :=
  Function.update_of_ne other ..

theorem append_self {heap : Heap} {unit : DataUnit} {values : List Int64}
    {data : CalcData} (live : heap unit.concurrentData = some data) :
    heap.append unit values unit.concurrentData =
      some (data.appendResults unit.resultIndex values) := by
  simp [append, live]

end Heap

theorem CalcData.length_appendResults (data : CalcData) (index : UInt64)
    (values : List Int64) :
    (data.appendResults index values).results.length = data.results.length := by
  simp [appendResults]

namespace CalcWebApp

/-- The three lines after the application index bring one list of values. -/
theorem deserializeResponse_lines {heap : Heap} {unit : DataUnit}
    {data : CalcData} (address : unit.concurrentData ≠ 0)
    (live : heap unit.concurrentData = some data)
    (inside : unit.resultIndex.toNat < data.results.length)
    (values : List Int64) :
    deserializeResponse heap (joinLines
        [unsignedToString unit.concurrentData, unsignedToString unit.resultIndex,
          CalcData.resultText values]) =
      (heap.append unit values, .ok unit) := by
  have tokens : split (joinLines
      [unsignedToString unit.concurrentData, unsignedToString unit.resultIndex,
        CalcData.resultText values]) ['\n'] false =
      [unsignedToString unit.concurrentData, unsignedToString unit.resultIndex,
        CalcData.resultText values] ++ [[]] :=
    split_joinLines
      (by simp [newline_notMem_unsignedToString, newline_notMem_resultText])
  have nonempty : (joinLines
      [unsignedToString unit.concurrentData, unsignedToString unit.resultIndex,
        CalcData.resultText values]).isEmpty = false := by
    simp [joinLines]
  have fields : responseFields
      ([unsignedToString unit.concurrentData, unsignedToString unit.resultIndex,
        CalcData.resultText values] ++ [[]]) =
      .ok (unit.concurrentData, unit.resultIndex) := by
    simp [responseFields, address, bind, Except.bind, pure, Except.pure]
  simp only [deserializeResponse, nonempty, tokens, fields]
  simp [responseBufferLinesCount, live, cString_resultText,
    CalcData.deserializeResult_resultText, inside, Heap.append, Except.map]

end CalcWebApp

/-- One call of `route` on the text of a finished unit, whatever follows it. -/
theorem WorkerConnectionHandler.route_responseText
    {applications : List HttpApp} {heap : Heap} {unit : WorkUnit}
    (finished : unit.Finished applications heap) (rest : Text) :
    route applications heap (linesOf (unit.responseText ++ rest)) =
      { heap := heap.append unit.original unit.values
        produced := [unit.original]
        unread := linesOf rest
        outcome := .ok true } := by
  obtain ⟨app, registered⟩ := finished.registered
  obtain ⟨data, live, inside⟩ := finished.range
  have decoded := @CalcWebApp.deserializeResponse_lines heap unit.original data
    finished.address live inside unit.values
  have lines := linesOf_messageText
    (newline_notMem_unsignedToString unit.concurrentData.appIndex)
    (newline_notMem_unsignedToString unit.originalConcurrentData)
    (newline_notMem_unsignedToString unit.originalResultIndex)
    (newline_notMem_resultText unit.values) rest
  simp only [WorkUnit.original] at decoded
  simp [WorkUnit.responseText, lines, route, registered,
    responseBufferLinesCount, HttpApp.deserializeResponse, decoded, Except.map,
    WorkUnit.original]

/-- The stop line names no application. -/
theorem WorkerConnectionHandler.route_stop_line
    {applications : List HttpApp} (few : applications.length < 2 ^ 64)
    (heap : Heap) (lines : List Text) :
    route applications heap ("-1".toList :: lines) =
      { heap, produced := [], unread := lines, outcome := .ok false } := by
  have absent : applications[(UInt64.ofNat (2 ^ 64 - 1)).toNat]? = none := by
    simp
    omega
  simp only [route, stoul_stop_line, absent]

/-! ## Requests -/

namespace CalcWebApp

/-- The text `serializeRequest` writes. -/
def requestText (appIndex : UInt64) (unit : DataUnit) (query : Int64) : Text :=
  messageText (unsignedToString appIndex)
    (unsignedToString unit.concurrentData)
    (unsignedToString unit.resultIndex) (longToString query)

theorem serializeRequest_eq {heap : Heap} {unit : DataUnit} {data : CalcData}
    {query : Int64} (live : heap unit.concurrentData = some data)
    (present : data.queries[unit.resultIndex.toNat]? = some query) :
    serializeRequest heap unit =
      .ok (requestText data.appIndex unit query) := by
  simp [serializeRequest, live, CalcData.serializeQuery, present, requestText]

theorem requestText_ne_nil (appIndex : UInt64) (unit : DataUnit)
    (query : Int64) : requestText appIndex unit query ≠ [] := by
  simp [requestText, messageText]

theorem length_requestText_le (appIndex : UInt64) (unit : DataUnit)
    (query : Int64) : (requestText appIndex unit query).length ≤ 85 := by
  have first := length_unsignedToString_le appIndex
  have second := length_unsignedToString_le unit.concurrentData
  have third := length_unsignedToString_le unit.resultIndex
  have fourth := length_longToString_le query
  simp only [requestText, messageText, List.length_append, List.length_cons,
    List.length_nil]
  omega

/-- The four lines of a request rebuild the unit on the worker. -/
theorem deserializeRequest_lines (appIndex : UInt64) {unit : DataUnit}
    (address : unit.concurrentData ≠ 0) (query : Int64) :
    deserializeRequest (joinLines
        [unsignedToString appIndex, unsignedToString unit.concurrentData,
          unsignedToString unit.resultIndex, longToString query]) =
      .ok (createWorkUnit appIndex unit.concurrentData unit.resultIndex query) := by
  have tokens : split (joinLines
      [unsignedToString appIndex, unsignedToString unit.concurrentData,
        unsignedToString unit.resultIndex, longToString query]) ['\n'] false =
      [unsignedToString appIndex, unsignedToString unit.concurrentData,
        unsignedToString unit.resultIndex, longToString query] ++ [[]] :=
    split_joinLines
      (by simp [newline_notMem_unsignedToString, newline_notMem_longToString])
  have nonempty : (joinLines
      [unsignedToString appIndex, unsignedToString unit.concurrentData,
        unsignedToString unit.resultIndex, longToString query]).isEmpty =
      false := by
    simp [joinLines]
  have trimmed : split (joinLines
      [unsignedToString appIndex, unsignedToString unit.concurrentData,
        unsignedToString unit.resultIndex, longToString query]) ['\n'] true =
      [unsignedToString appIndex, unsignedToString unit.concurrentData,
        unsignedToString unit.resultIndex, longToString query] := by
    rw [split_trim, tokens]
    simp [unsignedToString_ne_nil, longToString_ne_nil]
  have fields : requestFields
      [unsignedToString appIndex, unsignedToString unit.concurrentData,
        unsignedToString unit.resultIndex, longToString query] =
      .ok (appIndex, unit.concurrentData, unit.resultIndex, query) := by
    simp [requestFields, address, bind, Except.bind, pure, Except.pure]
  simp only [deserializeRequest, nonempty, trimmed, fields]
  simp [requestBufferLinesCount]

end CalcWebApp

/-- One call of `readRequestFromMaster` on the text of a unit. -/
theorem RequestServer.readRequestFromMaster_requestText
    {applications : List HttpApp} {app : CalcWebApp} {appIndex : UInt64}
    (registered : applications[appIndex.toNat]? = some (.calc app))
    {unit : DataUnit} (address : unit.concurrentData ≠ 0) (query : Int64)
    (rest : Text) :
    readRequestFromMaster applications
        (linesOf (CalcWebApp.requestText appIndex unit query ++ rest)) =
      (.ok (some (CalcWebApp.createWorkUnit appIndex unit.concurrentData
        unit.resultIndex query)), linesOf rest) := by
  have lines := linesOf_messageText (newline_notMem_unsignedToString appIndex)
    (newline_notMem_unsignedToString unit.concurrentData)
    (newline_notMem_unsignedToString unit.resultIndex)
    (newline_notMem_longToString query) rest
  have decoded :=
    CalcWebApp.deserializeRequest_lines appIndex address query
  simp [CalcWebApp.requestText, lines, readRequestFromMaster, registered,
    requestBufferLinesCount, HttpApp.deserializeRequest, decoded, Except.map]

theorem RequestServer.readRequestFromMaster_stop_line
    {applications : List HttpApp} (few : applications.length < 2 ^ 64)
    (lines : List Text) :
    readRequestFromMaster applications ("-1".toList :: lines) =
      (.ok none, lines) := by
  have absent : applications[(UInt64.ofNat (2 ^ 64 - 1)).toNat]? = none := by
    simp
    omega
  simp only [readRequestFromMaster, stoul_stop_line, absent]

end Concurrente.WebServer
