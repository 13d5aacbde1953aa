import Concurrente.WebServer.Http.WireFormat

/-!
# A stream of responses on one connection

A worker writes the responses of its units one after another, and the handler
of the connection calls `route` until it fails.  Framing is by lines alone, so
what has to be shown is that every call stops exactly where its unit ends.
-/

namespace Concurrente.WebServer

namespace WorkerConnectionHandler

/-- The objects and the unread lines after some calls of `route`. -/
def afterCalls (applications : List HttpApp) (heap : Heap)
    (lines : List Text) : Nat → Heap × List Text
  | 0 => (heap, lines)
  | calls + 1 =>
      let before := afterCalls applications heap lines calls
      let routed := route applications before.1 before.2
      (routed.heap, routed.unread)

/-- Storing the values of several units, in order. -/
def storeAll (heap : Heap) (units : List WorkUnit) : Heap :=
  units.foldl (fun heap unit => heap.append unit.original unit.values) heap

theorem Finished.append {applications : List HttpApp} {heap : Heap}
    {unit : WorkUnit} (finished : unit.Finished applications heap)
    (other : DataUnit) (values : List Int64) :
    unit.Finished applications (heap.append other values) := by
  obtain ⟨data, live, inside⟩ := finished.range
  refine { finished with range := ?_ }
  by_cases same : unit.originalConcurrentData = other.concurrentData
  · refine ⟨data.appendResults other.resultIndex values, ?_, ?_⟩
    · rw [same] at live ⊢
      exact Heap.append_self live
    · rw [CalcData.length_appendResults]
      exact inside
  · exact ⟨data, by rw [Heap.append_of_ne same, live], inside⟩

theorem Finished.storeAll {applications : List HttpApp} {heap : Heap}
    {unit : WorkUnit} (finished : unit.Finished applications heap)
    (others : List WorkUnit) :
    unit.Finished applications (storeAll heap others) := by
  induction others generalizing heap with
  | nil => exact finished
  | cons other others ih =>
      exact ih (Finished.append finished other.original other.values)

theorem storeAll_concat (heap : Heap) (units : List WorkUnit)
    (unit : WorkUnit) :
    storeAll heap (units ++ [unit]) =
      (storeAll heap units).append unit.original unit.values := by
  simp [storeAll]

/-- After `k` calls the first `k` units are stored and the texts of the others
are still to be read. -/
theorem afterCalls_responses {applications : List HttpApp} {heap : Heap}
    {units : List WorkUnit}
    (finished : ∀ unit ∈ units, unit.Finished applications heap)
    {calls : Nat} (bound : calls ≤ units.length) :
    afterCalls applications heap
        (linesOf (units.flatMap WorkUnit.responseText)) calls =
      (storeAll heap (units.take calls),
        linesOf ((units.drop calls).flatMap WorkUnit.responseText)) := by
  induction calls with
  | zero => simp [afterCalls, storeAll]
  | succ calls ih =>
      have inside : calls < units.length := by omega
      have current := Finished.storeAll
        (finished units[calls] (List.getElem_mem inside)) (units.take calls)
      have step := route_responseText current
        ((units.drop (calls + 1)).flatMap WorkUnit.responseText)
      have remaining : units.drop calls =
          units[calls] :: units.drop (calls + 1) :=
        List.drop_eq_getElem_cons inside
      have stored : units.take (calls + 1) =
          units.take calls ++ [units[calls]] :=
        List.take_succ_eq_append_getElem inside
      rw [afterCalls, ih (by omega), remaining, List.flatMap_cons]
      simp only [step]
      rw [stored, storeAll_concat]

theorem texts_eq {applications : List HttpApp} {heap : Heap}
    {units : List WorkUnit} {texts : List Text}
    (finished : ∀ unit ∈ units, unit.Finished applications heap)
    (written : units.mapM WorkUnit.serializeResponse = .ok texts) :
    texts = units.map WorkUnit.responseText := by
  induction units generalizing texts with
  | nil =>
      cases written
      rfl
  | cons unit units ih =>
      have first := WorkUnit.serializeResponse_eq
        (finished unit List.mem_cons_self).processed
      rw [List.mapM_cons, first] at written
      cases others : units.mapM WorkUnit.serializeResponse with
      | error fault =>
          rw [others] at written
          cases written
      | ok later =>
          rw [others] at written
          cases written
          rw [List.map_cons, ih (fun other member =>
            finished other (.tail _ member)) others]

/-- Responses are accepted one by one, in order: the `k`-th call succeeds,
appends the values of the `k`-th unit to the slot the unit names, changes
nothing else, and leaves exactly the texts of the later units unread. -/
theorem route_accepts_responses {applications : List HttpApp} {heap : Heap}
    {units : List WorkUnit} {texts : List Text}
    (finished : ∀ unit ∈ units, unit.Finished applications heap)
    (written : units.mapM WorkUnit.serializeResponse = .ok texts) :
    (∀ k unit, units[k]? = some unit →
      let before := afterCalls applications heap (linesOf texts.flatten) k
      let routed := route applications before.1 before.2
      routed.outcome = .ok true ∧
        routed.produced = [{ concurrentData := unit.originalConcurrentData
                             resultIndex := unit.originalResultIndex }] ∧
        routed.unread = linesOf (texts.drop (k + 1)).flatten ∧
        (∃ data, before.1 unit.originalConcurrentData = some data ∧
          unit.originalResultIndex.toNat < data.results.length ∧
          routed.heap unit.originalConcurrentData =
            some (data.appendResults unit.originalResultIndex unit.values)) ∧
        ∀ address, address ≠ unit.originalConcurrentData →
          routed.heap address = before.1 address) ∧
      (afterCalls applications heap (linesOf texts.flatten) units.length).2 =
        [] := by
  obtain rfl := texts_eq finished written
  rw [← List.flatMap_def]
  constructor
  · intro k unit found
    obtain ⟨inside, rfl⟩ := List.getElem?_eq_some_iff.mp found
    have current := Finished.storeAll
      (finished units[k] (List.getElem_mem inside)) (units.take k)
    obtain ⟨data, live, range⟩ := current.range
    have remaining : units.drop k = units[k] :: units.drop (k + 1) :=
      List.drop_eq_getElem_cons inside
    have step := route_responseText current
      ((units.drop (k + 1)).flatMap WorkUnit.responseText)
    rw [afterCalls_responses finished (by omega), remaining,
      List.flatMap_cons]
    simp only [step]
    refine ⟨trivial, rfl, ?_, ⟨data, live, range, Heap.append_self live⟩, ?_⟩
    · rw [← List.map_drop, ← List.flatMap_def]
    · intro address other
      exact Heap.append_of_ne other
  · rw [afterCalls_responses finished le_rfl]
    simp


/-- An object with two queries, both answered by the same worker. -/
def sampleHeap : Heap :=
  Function.update (fun _ => none) 4096 (some
    { exchange := some 0, appIndex := 1, pendingQueries := 2, queries := [-12, 7],
      results := [[], []] })

/-- The second query is answered first, the other one with an empty list. -/
def sampleUnits : List WorkUnit :=
  [{ CalcWebApp.createWorkUnit 1 4096 1 7 with
      concurrentData :=
        { exchange := none, appIndex := 1, pendingQueries := 1, queries := [7],
          results := [[-3, 5, -9223372036854775808]] } },
    CalcWebApp.createWorkUnit 1 4096 0 (-12)]

theorem sampleUnits_finished :
    ∀ unit ∈ sampleUnits, unit.Finished
      [.page, .calc { processQuery := fun query _ => [query] }] sampleHeap := by
  intro unit member
  simp only [sampleUnits, List.mem_cons, List.not_mem_nil, or_false] at member
  rcases member with rfl | rfl
  · exact
      { registered := ⟨_, rfl⟩
        processed := by decide
        address := by decide
        range := ⟨_, rfl, by decide⟩ }
  · exact
      { registered := ⟨_, rfl⟩
        processed := by decide
        address := by decide
        range := ⟨_, rfl, by decide⟩ }

theorem route_accepts_sampleUnits :
    (afterCalls [.page, .calc { processQuery := fun query _ => [query] }]
      sampleHeap (linesOf
        ["1\n4096\n1\n=-3,5,-9223372036854775808\n".toList,
          "1\n4096\n0\n\n".toList].flatten) 2).2 = [] :=
  (route_accepts_responses sampleUnits_finished rfl).2

end WorkerConnectionHandler

end Concurrente.WebServer
