import Concurrente.WebServer.Http.WireFormat

/-!
# Messages of any peer

What `route` and `readRequestFromMaster` do with four lines of arbitrary
content.  Some of the conversions throw outside of every `try` block that would
catch what they throw, so a malformed number ends the process.
-/

namespace Concurrente.WebServer

/-- Four lines that were received. -/
structure PeerMessage where
  first : Text
  second : Text
  third : Text
  fourth : Text
  deriving DecidableEq, Repr

namespace PeerMessage

def lines (message : PeerMessage) : List Text :=
  [message.first, message.second, message.third, message.fourth]

/-- Lines as `SharedSocket.readLine` delivers them. -/
def Delivered (message : PeerMessage) : Prop :=
  ∀ line ∈ message.lines, '\n' ∉ line ∧ '\x00' ∉ line

instance (message : PeerMessage) : Decidable message.Delivered :=
  inferInstanceAs (Decidable (∀ line ∈ message.lines, _))

end PeerMessage

/-! ## Lists of values -/

/-- The part of a line that lists values: what follows the first prefix, or all
of it. -/
def listPart (line : Text) : Text :=
  if '=' ∈ line then (line.dropWhile (· != '=')).tail else line

/-- The pieces between commas that are not empty. -/
def listedTexts (line : Text) : List Text :=
  ((listPart line).splitOn ',').filter fun piece => !piece.isEmpty

/-- The values a line lists, when all its pieces are numbers. -/
def listedValues (line : Text) : Except StdException (List Int64) :=
  (listedTexts line).mapM stoll

/-- Where the list of a line starts. -/
theorem find_resultsPrefix (line : Text) :
    (find CalcData.resultsPrefix line = none ∧ listPart line = line) ∨
      ∃ pos, find CalcData.resultsPrefix line = some pos ∧
        substr line (pos + CalcData.resultsPrefix.length) = listPart line := by
  have sign : CalcData.resultsPrefix = ['='] := rfl
  rw [sign]
  unfold listPart
  by_cases member : '=' ∈ line
  · obtain ⟨before, values, rfl, absent⟩ := List.eq_append_cons_of_mem member
    have different : ∀ c ∈ before, (c != '=') = true := by
      intro c inside
      have other : c ≠ '=' := by
        rintro rfl
        exact absent inside
      simpa using other
    refine .inr ⟨before.length, find_char_append values absent, ?_⟩
    rw [if_pos member, List.dropWhile_append_of_pos different]
    simp [substr]
  · exact .inl ⟨find_char_of_not_mem member, if_neg member⟩

namespace CalcData

/-- `deserializeResult` stores the pieces of the list. -/
theorem deserializeResult_eq {data : CalcData} {index : UInt64}
    (inside : index.toNat < data.results.length) (line : Text) :
    data.deserializeResult index line =
      data.storeResults index (listedTexts line) := by
  unfold deserializeResult
  rw [if_pos inside]
  cases line with
  | nil => simp [listedTexts, listPart, storeResults]
  | cons c line =>
      have pieces : split (listPart (c :: line)) [','] true =
          listedTexts (c :: line) := by
        rw [split_trim, split_char]
        rfl
      rw [if_neg (by simp)]
      rcases find_resultsPrefix (c :: line) with
        ⟨missing, whole⟩ | ⟨pos, found, part⟩
      · rw [whole] at pieces
        simp only [missing, substr, List.drop_zero, pieces]
      · simp only [found, part, pieces]

/-- When a piece is no number, an exception leaves the loop. -/
theorem storeResults_of_error {data : CalcData} {index : UInt64}
    {pieces : List Text} {error : StdException}
    (failed : pieces.mapM stoll = .error error) :
    ∃ stored what,
      data.storeResults index pieces = (stored, .error (.exception what)) := by
  induction pieces generalizing data with
  | nil => cases failed
  | cons piece pieces ih =>
      rw [List.mapM_cons] at failed
      unfold storeResults
      cases first : stoll piece with
      | error other => exact ⟨_, _, rfl⟩
      | ok value =>
          rw [first] at failed
          cases others : pieces.mapM stoll with
          | error other =>
              rw [others] at failed
              cases failed
              exact ih others
          | ok later =>
              rw [others] at failed
              cases failed

end CalcData

/-! ## Responses -/

namespace CalcWebApp

/-- The conversions of a response that succeed. -/
theorem responseFields_eq_ok {second third : Text} {others : List Text}
    {address : Address} {index : UInt64} :
    responseFields (second :: third :: others) = .ok (address, index) ↔
      stoul second = .ok address ∧ address ≠ 0 ∧ stoul third = .ok index := by
  simp only [responseFields, List.getElem!_cons_zero, List.getElem!_cons_succ]
  cases stoul second with
  | error error => simp [bind, Except.bind]
  | ok value =>
      by_cases zero : value = 0
      · refine iff_of_false ?_ ?_
        · simp [bind, Except.bind, zero, throw, throwThe, MonadExceptOf.throw]
        · intro fields
          obtain ⟨same, nonzero, _⟩ := fields
          cases same
          exact nonzero zero
      · cases stoul third with
        | error error => simp [bind, Except.bind, zero]
        | ok slot =>
            have nonzero : value = address → slot = index → address ≠ 0 := by
              rintro rfl _
              exact zero
            simpa [bind, Except.bind, pure, Except.pure, zero] using nonzero

section

variable {heap : Heap} {second third fourth : Text}
  (delivered : ∀ line ∈ [second, third, fourth], '\n' ∉ line ∧ '\x00' ∉ line)

include delivered

/-- The buffer splits into the three lines and an empty piece. -/
theorem split_response :
    split (joinLines [second, third, fourth]) ['\n'] false =
      [second, third, fourth, []] :=
  split_joinLines fun line member => (delivered line member).1

theorem deserializeResponse_of_error {error : StdException}
    (failed : responseFields [second, third, fourth, []] = .error error) :
    deserializeResponse heap (joinLines [second, third, fourth]) =
      (heap, .error (.exception (.runtimeError ("Invalid serial CalcData: ".toList ++
        joinLines [second, third, fourth])))) := by
  have nonempty : (joinLines [second, third, fourth]).isEmpty = false := by
    simp [joinLines]
  simp only [deserializeResponse, nonempty, split_response delivered, failed]
  rfl

variable {address : Address} {index : UInt64} {data : CalcData}
  (fields : responseFields [second, third, fourth, []] = .ok (address, index))
  (live : heap address = some data)
  (inside : index.toNat < data.results.length)

include fields live inside

theorem deserializeResponse_eq :
    deserializeResponse heap (joinLines [second, third, fourth]) =
      (Function.update heap address
          (some (data.storeResults index (listedTexts fourth)).1),
        (data.storeResults index (listedTexts fourth)).2.map fun _ =>
          ⟨address, index⟩) := by
  have nonempty : (joinLines [second, third, fourth]).isEmpty = false := by
    simp [joinLines]
  have plain : cString fourth = fourth :=
    cString_of_notMem (delivered fourth (by simp)).2
  simp only [deserializeResponse, nonempty, split_response delivered, fields, live]
  simp [responseBufferLinesCount, plain, CalcData.deserializeResult_eq inside]

end

end CalcWebApp

namespace WorkerConnectionHandler

/-- The unit was stored as a whole, or nothing has happened: what the handler
of a connection relies on. -/
def RoutedWhole (heap : Heap) (message : PeerMessage) (routed : Routed) : Prop :=
  (∃ unit data values,
    routed.outcome = .ok true ∧ routed.produced = [unit] ∧
    heap unit.concurrentData = some data ∧
    unit.resultIndex.toNat < data.results.length ∧
    listedValues message.fourth = .ok values ∧
    routed.heap = heap.append unit values) ∨
  (routed.outcome = .ok false ∧ routed.produced = [] ∧ routed.heap = heap)

/-- The application index is not out of range as a number, and when it names a
concurrent application, the other lines are numbers in range. -/
def Routable (applications : List HttpApp) (message : PeerMessage) : Prop :=
  match stoul message.first with
  | .error (.invalidArgument _) => True
  | .error _ => False
  | .ok appIndex =>
      match applications[appIndex.toNat]? with
      | some (.calc _) =>
          (∃ address, stoul message.second = .ok address ∧ address ≠ 0) ∧
          (∃ index, stoul message.third = .ok index) ∧
          ∃ values, listedValues message.fourth = .ok values
      | _ => True

/-- The address of a message is that of an object, and its index is valid. -/
def Addressed (heap : Heap) (message : PeerMessage) : Prop :=
  ∀ address, stoul message.second = .ok address → address ≠ 0 →
    ∃ data, heap address = some data ∧
      ∀ index, stoul message.third = .ok index →
        index.toNat < data.results.length

theorem not_routedWhole_of_error {heap : Heap} {message : PeerMessage}
    {routed : Routed} {fault : Fault} (failed : routed.outcome = .error fault) :
    ¬ RoutedWhole heap message routed := by
  rintro (⟨_, _, _, succeeded, _⟩ | ⟨refused, _⟩)
  · rw [failed] at succeeded
    cases succeeded
  · rw [failed] at refused
    cases refused

/-- `route` returns what the application makes of the three other lines. -/
theorem route_of_response {applications : List HttpApp} {heap heap' : Heap}
    {message : PeerMessage} {appIndex : UInt64} {app : CalcWebApp}
    {outcome : Except Fault DataUnit}
    (first : stoul message.first = .ok appIndex)
    (registered : applications[appIndex.toNat]? = some (.calc app))
    (decoded : CalcWebApp.deserializeResponse heap
        (joinLines [message.second, message.third, message.fourth]) =
      (heap', outcome)) (rest : List Text) :
    route applications heap (message.lines ++ rest) =
      { heap := heap', produced := outcome.toOption.toList, unread := rest
        outcome := outcome.map fun _ => true } := by
  have enough : ¬ (message.second :: message.third :: message.fourth :: rest).length <
      responseBufferLinesCount := by
    simp [responseBufferLinesCount]
  simp only [PeerMessage.lines, List.cons_append, List.nil_append, route, first,
    registered, if_neg enough]
  simp only [responseBufferLinesCount, List.take_succ_cons, List.take_zero,
    List.drop_succ_cons, List.drop_zero, HttpApp.deserializeResponse, decoded]
  cases outcome <;> rfl

/-- `route` stores a whole unit or nothing exactly for routable messages. -/
theorem routedWhole_iff {applications : List HttpApp} {heap : Heap}
    {message : PeerMessage} (delivered : message.Delivered)
    (addressed : Addressed heap message) (rest : List Text) :
    RoutedWhole heap message (route applications heap (message.lines ++ rest)) ↔
      Routable applications message := by
  have whole : ∀ line ∈ [message.second, message.third, message.fourth],
      '\n' ∉ line ∧ '\x00' ∉ line :=
    fun line member => delivered line (.tail _ member)
  have nothing (unread : List Text) : RoutedWhole heap message
      { heap, produced := [], unread, outcome := .ok false } :=
    .inr ⟨rfl, rfl, rfl⟩
  have taken : message.lines ++ rest = message.first ::
      message.second :: message.third :: message.fourth :: rest := rfl
  unfold Routable
  cases first : stoul message.first with
  | error error =>
      rw [taken, route, first]
      cases error with
      | invalidArgument what => exact iff_of_true (nothing _) trivial
      | outOfRange what => exact iff_of_false (not_routedWhole_of_error rfl) id
      | runtimeError what => exact iff_of_false (not_routedWhole_of_error rfl) id
  | ok appIndex =>
      rcases registered : applications[appIndex.toNat]? with _ | _ | app
      · rw [taken, route, first]
        simp only [registered]
        exact iff_of_true (nothing _) trivial
      · rw [taken, route, first]
        simp only [registered]
        exact iff_of_true (nothing _) trivial
      · simp only [registered]
        cases fields : CalcWebApp.responseFields
            [message.second, message.third, message.fourth, []] with
        | error error =>
            rw [route_of_response first registered
              (CalcWebApp.deserializeResponse_of_error whole fields)]
            refine iff_of_false (not_routedWhole_of_error rfl) ?_
            rintro ⟨⟨address, second, nonzero⟩, ⟨index, third⟩, _⟩
            rw [CalcWebApp.responseFields_eq_ok.mpr ⟨second, nonzero, third⟩] at fields
            cases fields
        | ok slot =>
            obtain ⟨second, nonzero, third⟩ :=
              CalcWebApp.responseFields_eq_ok.mp fields
            obtain ⟨data, live, range⟩ := addressed _ second nonzero
            have inside := range _ third
            rw [route_of_response first registered
              (CalcWebApp.deserializeResponse_eq whole fields live inside)]
            cases listed : listedValues message.fourth with
            | error error =>
                obtain ⟨stored, what, failed⟩ :=
                  CalcData.storeResults_of_error listed
                rw [failed]
                refine iff_of_false (not_routedWhole_of_error rfl) ?_
                rintro ⟨_, _, _, succeeded⟩
                cases succeeded
            | ok values =>
                rw [CalcData.storeResults_of_ok listed]
                refine iff_of_true (.inl ⟨⟨slot.1, slot.2⟩, data, values, rfl, rfl, live,
                  inside, listed, ?_⟩) ⟨⟨_, second, nonzero⟩, ⟨_, third⟩, _, rfl⟩
                simp [Heap.append, live]

end WorkerConnectionHandler

/-! ## Requests -/

theorem stoul_nil : ∃ what, stoul [] = .error (.invalidArgument what) := ⟨_, rfl⟩

theorem stoll_nil : ∃ what, stoll [] = .error (.invalidArgument what) := ⟨_, rfl⟩

theorem ne_nil_of_stoul {text : Text} {value : UInt64}
    (number : stoul text = .ok value) : text ≠ [] := by
  rintro rfl
  obtain ⟨what, failed⟩ := stoul_nil
  rw [failed] at number
  cases number

theorem ne_nil_of_stoll {text : Text} {value : Int64}
    (number : stoll text = .ok value) : text ≠ [] := by
  rintro rfl
  obtain ⟨what, failed⟩ := stoll_nil
  rw [failed] at number
  cases number

namespace CalcWebApp

/-- The conversions of a request succeed exactly when every line is a number
and the address is not zero. -/
theorem requestFields_isOk {first second third fourth : Text}
    {appIndex : UInt64} (named : stoul first = .ok appIndex) :
    (∃ fields, requestFields [first, second, third, fourth] = .ok fields) ↔
      (∃ address, stoul second = .ok address ∧ address ≠ 0) ∧
      (∃ index, stoul third = .ok index) ∧
      ∃ query, stoll fourth = .ok query := by
  simp only [requestFields, List.getElem!_cons_zero, List.getElem!_cons_succ, named]
  cases stoul second with
  | error error => simp [bind, Except.bind]
  | ok address =>
      by_cases zero : address = 0
      · simp [bind, Except.bind, zero, throw, throwThe, MonadExceptOf.throw]
      · cases stoul third with
        | error error => simp [bind, Except.bind, zero]
        | ok index =>
            cases stoll fourth <;>
              simp [bind, Except.bind, pure, Except.pure, zero]

/-- `deserializeRequest` returns exactly when the conversions succeed. -/
theorem deserializeRequest_isOk {first second third fourth : Text}
    (whole : ∀ line ∈ [first, second, third, fourth], '\n' ∉ line)
    {appIndex : UInt64} (named : stoul first = .ok appIndex) :
    (∃ work, deserializeRequest (joinLines [first, second, third, fourth]) =
        .ok work) ↔
      (∃ address, stoul second = .ok address ∧ address ≠ 0) ∧
      (∃ index, stoul third = .ok index) ∧
      ∃ query, stoll fourth = .ok query := by
  have nonempty : (joinLines [first, second, third, fourth]).isEmpty = false := by
    simp [joinLines]
  have pieces : split (joinLines [first, second, third, fourth]) ['\n'] true =
      [first, second, third, fourth].filter fun piece => !piece.isEmpty := by
    rw [split_trim, split_joinLines whole, List.filter_append]
    exact List.append_nil _
  by_cases filled : second ≠ [] ∧ third ≠ [] ∧ fourth ≠ []
  · have all : [first, second, third, fourth].filter (fun piece => !piece.isEmpty) =
        [first, second, third, fourth] := by
      simp [ne_nil_of_stoul named, filled]
    rw [← requestFields_isOk named]
    simp only [deserializeRequest, nonempty, pieces, all]
    cases requestFields [first, second, third, fourth] <;>
      simp [requestBufferLinesCount]
  · have few : ([first, second, third, fourth].filter
        fun piece => !piece.isEmpty).length < requestBufferLinesCount + 1 := by
      refine (List.length_filter_lt_length_iff_exists).mpr ?_
      by_contra full
      exact filled (by simpa [ne_nil_of_stoul named] using full)
    refine iff_of_false ?_ ?_
    · rintro ⟨work, succeeded⟩
      simp only [deserializeRequest, nonempty, pieces, if_pos few] at succeeded
      cases succeeded
    · rintro ⟨⟨address, second, _⟩, ⟨index, third⟩, query, fourth⟩
      exact filled
        ⟨ne_nil_of_stoul second, ne_nil_of_stoul third, ne_nil_of_stoll fourth⟩

end CalcWebApp

namespace RequestServer

/-- The application index is not out of range as a number, and when it names a
concurrent application, the other lines are numbers in range. -/
def Readable (applications : List HttpApp) (message : PeerMessage) : Prop :=
  match stoul message.first with
  | .error (.invalidArgument _) => True
  | .error _ => False
  | .ok appIndex =>
      match applications[appIndex.toNat]? with
      | some (.calc _) =>
          (∃ address, stoul message.second = .ok address ∧ address ≠ 0) ∧
          (∃ index, stoul message.third = .ok index) ∧
          ∃ query, stoll message.fourth = .ok query
      | _ => True

/-- `readRequestFromMaster` returns exactly for readable messages. -/
theorem readRequestFromMaster_isOk {applications : List HttpApp}
    {message : PeerMessage} (delivered : message.Delivered) (rest : List Text) :
    (∃ outcome, (readRequestFromMaster applications (message.lines ++ rest)).1 =
        .ok outcome) ↔
      Readable applications message := by
  have whole : ∀ line ∈
      [message.first, message.second, message.third, message.fourth],
      '\n' ∉ line :=
    fun line member => (delivered line member).1
  have taken : message.lines ++ rest = message.first ::
      message.second :: message.third :: message.fourth :: rest := rfl
  unfold Readable
  cases first : stoul message.first with
  | error error =>
      rw [taken, readRequestFromMaster, first]
      cases error with
      | invalidArgument what => exact iff_of_true ⟨_, rfl⟩ trivial
      | outOfRange what | runtimeError what =>
          refine iff_of_false (fun returned => ?_) id
          obtain ⟨_, same⟩ := returned
          cases same
  | ok appIndex =>
      rw [taken, readRequestFromMaster, first]
      rcases registered : applications[appIndex.toNat]? with _ | _ | app
      · simp only [registered]
        exact iff_of_true ⟨_, rfl⟩ trivial
      · simp only [registered]
        exact iff_of_true ⟨none, rfl⟩ trivial
      · simp only [registered]
        have enough : ¬ (message.second :: message.third :: message.fourth ::
            rest).length < requestBufferLinesCount := by
          simp [requestBufferLinesCount]
        rw [← CalcWebApp.deserializeRequest_isOk whole first, if_neg enough]
        simp only [requestBufferLinesCount, List.take_succ_cons, List.take_zero,
          HttpApp.deserializeRequest]
        cases CalcWebApp.deserializeRequest (joinLines
          [message.first, message.second, message.third, message.fourth]) <;>
          simp [Except.map]

end RequestServer

/-! ## Both directions of a connection -/

/-- A response is stored as a whole or refused without a trace, and a request is
read or refused, exactly when no number in them throws what is not caught. -/
theorem PeerMessage.handled_iff {applications : List HttpApp} {heap : Heap}
    {response request : PeerMessage} (delivered : response.Delivered)
    (addressed : WorkerConnectionHandler.Addressed heap response)
    (delivered' : request.Delivered) (rest : List Text) :
    (WorkerConnectionHandler.RoutedWhole heap response
        (WorkerConnectionHandler.route applications heap
          (response.lines ++ rest)) ↔
      WorkerConnectionHandler.Routable applications response) ∧
    ((∃ outcome, (RequestServer.readRequestFromMaster applications
        (request.lines ++ rest)).1 = .ok outcome) ↔
      RequestServer.Readable applications request) :=
  ⟨WorkerConnectionHandler.routedWhole_iff delivered addressed rest,
    RequestServer.readRequestFromMaster_isOk delivered' rest⟩

namespace PeerMessage

/-- A live object with one slot. -/
def slotHeap : Heap := fun address =>
  if address = 4096 then some
    { exchange := some 0, appIndex := 1, pendingQueries := 1, queries := [7],
      results := [[]] }
  else none

def slotApplications : List HttpApp :=
  [.page, .calc { processQuery := fun query _ => [query] }]

/-- A response for the slot, with a list of values. -/
def slotResponse (values : Text) : PeerMessage :=
  ⟨"1".toList, "4096".toList, "0".toList, values⟩

theorem addressed_slotResponse (values : Text) :
    WorkerConnectionHandler.Addressed slotHeap (slotResponse values) := by
  intro address second _
  obtain rfl : 4096 = address := by
    have parsed : stoul "4096".toList = .ok 4096 := by decide
    change stoul "4096".toList = _ at second
    rw [parsed] at second
    cases second
    rfl
  refine ⟨_, rfl, fun index third => ?_⟩
  have parsed : stoul "0".toList = .ok 0 := by decide
  change stoul "0".toList = _ at third
  rw [parsed] at third
  cases third
  decide

/-- Two values are stored, and a request with a query is read. -/
theorem handled_iff_sample :
    WorkerConnectionHandler.RoutedWhole slotHeap (slotResponse "=5,-7".toList)
        (WorkerConnectionHandler.route slotApplications slotHeap
          (slotResponse "=5,-7".toList).lines) ∧
      ∃ outcome, (RequestServer.readRequestFromMaster slotApplications
        (slotResponse "45".toList).lines).1 = .ok outcome := by
  have fields : (∃ address, stoul "4096".toList = .ok address ∧ address ≠ 0) ∧
      ∃ index, stoul "0".toList = .ok index :=
    ⟨⟨4096, by decide, by decide⟩, 0, by decide⟩
  obtain ⟨routed, read⟩ := @handled_iff slotApplications slotHeap
    (slotResponse "=5,-7".toList) (slotResponse "45".toList) (by decide)
    (addressed_slotResponse _) (by decide) []
  exact ⟨routed.mpr ⟨fields.1, fields.2, [5, -7], by decide⟩,
    read.mpr ⟨fields.1, fields.2, 45, by decide⟩⟩

/-- The first value is stored before the second one ends the process. -/
theorem exception_escapes :
    (slotResponse "=5,x".toList).Delivered ∧
    WorkerConnectionHandler.Addressed slotHeap (slotResponse "=5,x".toList) ∧
    ∃ routed, WorkerConnectionHandler.route slotApplications slotHeap
        (slotResponse "=5,x".toList).lines = routed ∧
      routed.outcome = .error (.exception
        (.runtimeError "Invalid result value: x".toList)) ∧
      (routed.heap 4096).map (·.results) = some [[5]] ∧
      ¬ WorkerConnectionHandler.RoutedWhole slotHeap
        (slotResponse "=5,x".toList) routed := by
  have failed : (WorkerConnectionHandler.route slotApplications slotHeap
      (slotResponse "=5,x".toList).lines).outcome = .error (.exception
        (.runtimeError "Invalid result value: x".toList)) := by
    decide +kernel
  exact ⟨by decide, addressed_slotResponse _, _, rfl, failed, by decide +kernel,
    WorkerConnectionHandler.not_routedWhole_of_error failed⟩

end PeerMessage

end Concurrente.WebServer
