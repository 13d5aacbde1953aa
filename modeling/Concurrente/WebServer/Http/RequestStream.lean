import Concurrente.WebServer.Http.WireFormat

/-!
# A stream of requests on one connection

The master writes the requests of its units one after another, and the worker
calls `readRequestFromMaster` until it fails.  Objects may change between two
requests, so every unit is serialized with the objects of its own moment.
-/

namespace Concurrente.WebServer

/-- A unit at the moment it is serialized. -/
structure UnitRequest where
  heap : Heap
  unit : DataUnit

namespace UnitRequest

/-- The unit of an object of a concurrent application, with a valid index. -/
structure Sendable (applications : List HttpApp) (request : UnitRequest) :
    Prop where
  address : request.unit.concurrentData ≠ 0
  live : ∃ data app, request.heap request.unit.concurrentData = some data ∧
    applications[data.appIndex.toNat]? = some (.calc app) ∧
    request.unit.resultIndex.toNat < data.queries.length

/-- The work unit that a worker makes of a request. -/
structure RebuiltAs (request : UnitRequest) (work : WorkUnit) : Prop where
  query : ∃ data query, request.heap request.unit.concurrentData = some data ∧
    data.queries[request.unit.resultIndex.toNat]? = some query ∧
    work.concurrentData.appIndex = data.appIndex ∧
    work.concurrentData.queries = [query]
  own : work.resultIndex = 0
  address : work.originalConcurrentData = request.unit.concurrentData
  index : work.originalResultIndex = request.unit.resultIndex

end UnitRequest

namespace RequestServer

/-- Successive calls of `readRequestFromMaster`: what they return, and the
lines left unread. -/
def readRequests (applications : List HttpApp) :
    Nat → List Text → List (Except Fault (Option WorkUnit)) × List Text
  | 0, lines => ([], lines)
  | calls + 1, lines =>
      let first := readRequestFromMaster applications lines
      let later := readRequests applications calls first.2
      (first.1 :: later.1, later.2)

/-- One request is written and read back, whatever follows it. -/
theorem readRequestFromMaster_serialized {applications : List HttpApp}
    {request : UnitRequest} (sendable : request.Sendable applications) :
    ∃ text work, CalcWebApp.serializeRequest request.heap request.unit = .ok text ∧
      request.RebuiltAs work ∧ ∀ rest,
        readRequestFromMaster applications (linesOf (text ++ rest)) =
          (.ok (some work), linesOf rest) := by
  obtain ⟨data, app, live, registered, inside⟩ := sendable.live
  have present : data.queries[request.unit.resultIndex.toNat]? =
      some data.queries[request.unit.resultIndex.toNat] :=
    List.getElem?_eq_getElem inside
  refine ⟨_, _, CalcWebApp.serializeRequest_eq live present, ?_,
    readRequestFromMaster_requestText registered sendable.address _⟩
  exact
    { query := ⟨data, _, live, present, rfl, rfl⟩
      own := rfl
      address := rfl
      index := rfl }

/-- Requests are read back one by one, in order, and no line is left over. -/
theorem readRequests_serialized {applications : List HttpApp}
    {requests : List UnitRequest}
    (sendable : ∀ request ∈ requests, request.Sendable applications) :
    ∃ texts works,
      requests.mapM (fun request =>
        CalcWebApp.serializeRequest request.heap request.unit) = .ok texts ∧
      readRequests applications requests.length (linesOf texts.flatten) =
        (works.map fun work => .ok (some work), []) ∧
      List.Forall₂ UnitRequest.RebuiltAs requests works := by
  induction requests with
  | nil => exact ⟨[], [], rfl, by simp [readRequests], .nil⟩
  | cons request requests ih =>
      obtain ⟨texts, works, written, read, rebuilt⟩ :=
        ih fun other member => sendable other (.tail _ member)
      obtain ⟨text, work, first, same, reads⟩ :=
        readRequestFromMaster_serialized (sendable request List.mem_cons_self)
      refine ⟨text :: texts, work :: works, ?_, ?_, .cons same rebuilt⟩
      · rw [List.mapM_cons, first, written]
        rfl
      · rw [List.flatten_cons, List.length_cons, readRequests, reads]
        simp only [read, List.map_cons]

/-- An object with the extreme queries. -/
def extremeHeap : Heap := fun address =>
  if address = 4096 then some
    (.updatePending
      { exchange := some 0, appIndex := 1, pendingQueries := 0,
        queries := [-9223372036854775808, 9223372036854775807], results := [] })
  else none

theorem readRequests_extreme :
    ∃ texts works,
      [UnitRequest.mk extremeHeap ⟨4096, 1⟩, ⟨extremeHeap, ⟨4096, 0⟩⟩].mapM
        (fun request => CalcWebApp.serializeRequest request.heap request.unit) =
          .ok texts ∧
      readRequests [.page, .calc { processQuery := fun query _ => [query] }] 2
          (linesOf texts.flatten) =
        (works.map fun work => .ok (some work), []) ∧
      List.Forall₂ UnitRequest.RebuiltAs
        [⟨extremeHeap, ⟨4096, 1⟩⟩, ⟨extremeHeap, ⟨4096, 0⟩⟩] works := by
  refine readRequests_serialized fun request member => ?_
  simp only [List.mem_cons, List.not_mem_nil, or_false] at member
  rcases member with rfl | rfl
  · exact { address := by decide, live := ⟨_, _, rfl, rfl, by decide⟩ }
  · exact { address := by decide, live := ⟨_, _, rfl, rfl, by decide⟩ }

end RequestServer

end Concurrente.WebServer
