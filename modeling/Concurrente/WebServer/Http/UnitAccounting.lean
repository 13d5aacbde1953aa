import Concurrente.WebServer.Http.UnitStages

/-!
# Accounting for the units of all objects

`Accounted` relates the objects of the master to all stages that its threads,
its workers and the channels between them hold.  There is one lemma for each
thing that happens to an object.
-/

namespace Concurrente.WebServer

/-- The stages at each address are those of the object there, if any. -/
def Accounted (applications : List HttpApp) (heap : Heap)
    (stages : Address → Multiset Stage) : Prop :=
  ∀ address, ObjectAt applications address (heap address) (stages address)

section ObjectAt

variable {applications : List HttpApp} {address : Address}
  {entry : Option CalcData} {rest : Multiset Stage}

theorem eq_of_add_singleton_eq {first second : Stage}
    (same : rest + {first} = {second}) : rest = 0 ∧ first = second := by
  have card := congrArg Multiset.card same
  simp only [Multiset.card_add, Multiset.card_singleton,
    Nat.add_eq_right] at card
  have none := Multiset.card_eq_zero.mp card
  subst none
  exact ⟨rfl, by simpa using same⟩

theorem add_singleton_ne_zero {stage : Stage} : rest + {stage} ≠ 0 := by
  intro none
  simpa using congrArg Multiset.card none

/-- An object with a unit in some place is being worked on. -/
theorem ObjectAt.of_unit {index : UInt64} {place : Place}
    (object : ObjectAt applications address entry
      (rest + {.unit index place})) :
    ∃ data app units, entry = some data ∧ address ≠ 0 ∧
      data.Registered applications app ∧
      data.Working app address ((index, place) ::ₘ units) ∧
      rest = stagesOf units := by
  generalize split : rest + {.unit index place} = stages at object
  cases object with
  | absent => exact (add_singleton_ne_zero split).elim
  | whole => cases (eq_of_add_singleton_eq split).2
  | assembled => cases (eq_of_add_singleton_eq split).2
  | handed => cases (eq_of_add_singleton_eq split).2
  | @decomposed data app units valid registered unfinished working =>
      obtain ⟨unit, others, same, rfl, remains⟩ :=
        exists_of_stagesOf_eq split.symm
      simp only [Stage.unit.injEq] at same
      obtain ⟨rfl, rfl⟩ := same
      exact ⟨data, app, others, rfl, valid, registered, working, remains⟩

/-- What is held whole is all there is of an object. -/
theorem ObjectAt.of_whole
    (object : ObjectAt applications address entry (rest + {.whole})) :
    rest = 0 ∧ ∃ data app, entry = some data ∧ address ≠ 0 ∧
      data.Registered applications app ∧ data.Untouched := by
  generalize split : rest + {.whole} = stages at object
  cases object with
  | absent => exact (add_singleton_ne_zero split).elim
  | whole valid registered untouched =>
      exact ⟨(eq_of_add_singleton_eq split).1, _, _, rfl, valid, registered,
        untouched⟩
  | decomposed =>
      obtain ⟨_, _, same, _⟩ := exists_of_stagesOf_eq split.symm
      simp at same
  | assembled => cases (eq_of_add_singleton_eq split).2
  | handed => cases (eq_of_add_singleton_eq split).2

theorem ObjectAt.of_assembled
    (object : ObjectAt applications address entry (rest + {.assembled})) :
    rest = 0 ∧ ∃ data app, entry = some data ∧ address ≠ 0 ∧
      data.Registered applications app ∧ data.pendingQueries = 0 ∧
      data.Complete app := by
  generalize split : rest + {.assembled} = stages at object
  cases object with
  | absent => exact (add_singleton_ne_zero split).elim
  | assembled valid registered finished complete =>
      exact ⟨(eq_of_add_singleton_eq split).1, _, _, rfl, valid, registered,
        finished, complete⟩
  | decomposed =>
      obtain ⟨_, _, same, _⟩ := exists_of_stagesOf_eq split.symm
      simp at same
  | whole => cases (eq_of_add_singleton_eq split).2
  | handed => cases (eq_of_add_singleton_eq split).2

theorem ObjectAt.of_handed
    (object : ObjectAt applications address entry (rest + {.handed})) :
    rest = 0 ∧ ∃ data, entry = some data := by
  generalize split : rest + {.handed} = stages at object
  cases object with
  | absent => exact (add_singleton_ne_zero split).elim
  | handed =>
      exact ⟨(eq_of_add_singleton_eq split).1, _, rfl⟩
  | decomposed =>
      obtain ⟨_, _, same, _⟩ := exists_of_stagesOf_eq split.symm
      simp at same
  | whole => cases (eq_of_add_singleton_eq split).2
  | assembled => cases (eq_of_add_singleton_eq split).2

/-- No object has broken data. -/
theorem ObjectAt.not_broken {stages : Multiset Stage}
    (object : ObjectAt applications address entry stages) :
    .broken ∉ stages := by
  cases object with
  | decomposed => simp [stagesOf]
  | absent | whole | assembled | handed => simp

theorem ObjectAt.stages_eq_zero {stages : Multiset Stage}
    (object : ObjectAt applications address none stages) : stages = 0 := by
  cases object
  rfl

/-- An object that exists is somewhere. -/
theorem ObjectAt.stages_ne_zero {data : CalcData} {stages : Multiset Stage}
    (object : ObjectAt applications address (some data) stages) :
    stages ≠ 0 := by
  cases object with
  | decomposed _ _ unfinished => simpa [stagesOf] using unfinished
  | whole | assembled | handed => simp

end ObjectAt

namespace Accounted

variable {applications : List HttpApp} {heap : Heap}
  {rest : Address → Multiset Stage} {address : Address}

theorem not_broken {stages : Address → Multiset Stage}
    (accounted : Accounted applications heap stages) (address : Address) :
    .broken ∉ stages address :=
  (accounted address).not_broken

theorem focus {stage : Stage}
    (accounted : Accounted applications heap
      (rest + (Load.object address stage).weight)) :
    ObjectAt applications address (heap address) (rest address + {stage}) := by
  simpa [Load.weight] using accounted address

/-- Only the object at one address changes. -/
theorem update {old new : Multiset Stage} {entry : Option CalcData}
    (accounted : Accounted applications heap (rest + Pi.single address old))
    (object : ObjectAt applications address entry (rest address + new)) :
    Accounted applications (Function.update heap address entry)
      (rest + Pi.single address new) := by
  intro other
  by_cases same : other = address
  · subst same
    simpa using object
  · simpa [same] using accounted other

/-- The stages of an object change, its data does not. -/
theorem restage {old new : Multiset Stage}
    (accounted : Accounted applications heap (rest + Pi.single address old))
    (object : ObjectAt applications address (heap address)
      (rest address + new)) :
    Accounted applications heap (rest + Pi.single address new) := by
  have updated := accounted.update object
  rwa [Function.update_eq_self] at updated

/-- A handler creates an object where there was none. -/
theorem create {stages : Address → Multiset Stage} {data : CalcData}
    {app : CalcWebApp} (accounted : Accounted applications heap stages)
    (free : heap address = none) (valid : address ≠ 0)
    (registered : data.Registered applications app)
    (untouched : data.Untouched) :
    Accounted applications (Function.update heap address (some data))
      (stages + (Load.object address .whole).weight) := by
  have none := accounted address
  rw [free] at none
  have nothing : Accounted applications heap (stages + Pi.single address 0) := by
    simpa using accounted
  refine nothing.update ?_
  rw [none.stages_eq_zero, zero_add]
  exact .whole valid registered untouched

/-- The decomposer replaces an object by its units. -/
theorem decompose
    (accounted : Accounted applications heap
      (rest + (Load.object address .whole).weight)) :
    ∃ data, heap address = some data ∧
      Accounted applications heap (rest +
        loadWeight ((data.decompose address).map (·.load .queued))) := by
  obtain ⟨none, data, app, live, valid, registered, untouched⟩ :=
    accounted.focus.of_whole
  refine ⟨data, live, ?_⟩
  have loads := loadWeight_queuedUnits address data.indices
  rw [CalcData.decompose_eq, List.map_map, Function.comp_def, loads]
  refine restage accounted ?_
  rw [none, zero_add, live]
  exact .decomposed valid registered (untouched.queuedUnits_ne_zero registered)
    (untouched.working registered)

/-- What is known of a unit that is found in some place. -/
structure Found (applications : List HttpApp) (heap : Heap)
    (rest : Address → Multiset Stage) (unit : DataUnit) (place : Place)
    (data : CalcData) (app : CalcWebApp) : Prop where
  live : heap unit.concurrentData = some data
  valid : unit.concurrentData ≠ 0
  registered : data.Registered applications app
  fits : place.Fits app data unit
  moves : ∀ next results, next.Fits app { data with results } unit →
    results.length = data.results.length →
    (∀ other, other ≠ unit.resultIndex.toNat →
      results[other]? = data.results[other]?) →
    Accounted applications
      (Function.update heap unit.concurrentData (some { data with results }))
      (rest + (unit.load next).weight)

/-- A unit in some place fits the object it belongs to, and may move on. -/
theorem found {unit : DataUnit} {place : Place}
    (accounted : Accounted applications heap
      (rest + (unit.load place).weight)) :
    ∃ data app, Found applications heap rest unit place data app := by
  obtain ⟨data, app, units, live, valid, registered, working, remains⟩ :=
    accounted.focus.of_unit
  refine ⟨data, app, live, valid, registered,
    working.fits _ (Multiset.mem_cons_self _ _), ?_⟩
  intro next results fits length same
  refine update accounted ?_
  have object : ObjectAt applications unit.concurrentData
      (some { data with results })
      (stagesOf ((unit.resultIndex, next) ::ₘ units)) :=
    .decomposed valid ⟨registered.application, registered.asked, registered.few,
      length.trans registered.slots⟩ (by simp) (working.replace same fits)
  rwa [stagesOf_cons, ← Multiset.singleton_add, add_comm, ← remains] at object

/-- A unit moves on, and the object keeps its data. -/
theorem Found.move {unit : DataUnit} {place next : Place} {data : CalcData}
    {app : CalcWebApp}
    (found : Found applications heap rest unit place data app)
    (fits : next.Fits app data unit) :
    Accounted applications heap (rest + (unit.load next).weight) := by
  have moved := found.moves next data.results fits rfl fun _ _ => rfl
  rwa [← found.live, Function.update_eq_self] at moved

/-- Values are stored in the slot of a unit. -/
theorem Found.store {unit : DataUnit} {place : Place} {data : CalcData}
    {app : CalcWebApp} {query : Int64}
    (found : Found applications heap rest unit place data app)
    (write : List Int64 → List Int64) (awaits : data.Awaits unit.resultIndex query)
    (written : write [] = app.processQuery query []) :
    Accounted applications
      (Function.update heap unit.concurrentData (some { data with
        results := data.results.modify unit.resultIndex.toNat write }))
      (rest + (unit.load .processed).weight) := by
  refine found.moves .processed _ (.processed ⟨query, awaits.query, ?_⟩)
    (List.length_modify ..) fun other ne => ?_
  · simp [awaits.empty, written]
  · simp [ne.symm]

/-- The assembler marks a processed unit as ready; the last one completes the
object. -/
theorem mark {unit : DataUnit}
    (accounted : Accounted applications heap
      (rest + (unit.load .processed).weight)) :
    ∃ data, heap unit.concurrentData = some data ∧
      Accounted applications
        (Function.update heap unit.concurrentData (some data.markUnitReady))
        (rest + if data.markUnitReady.isReady then
          (Load.object unit.concurrentData .assembled).weight else 0) := by
  obtain ⟨data, app, units, live, valid, registered, working, remains⟩ :=
    accounted.focus.of_unit
  have marked := working.mark
  have kept : data.markUnitReady.Registered applications app :=
    ⟨registered.application, registered.asked, registered.few, registered.slots⟩
  refine ⟨data, live, ?_⟩
  by_cases last : units = 0
  · subst last
    have finished : data.markUnitReady.pendingQueries = 0 := by
      simpa using marked.pending
    rw [if_pos (by simp [CalcData.isReady, finished])]
    refine update accounted ?_
    rw [remains, stagesOf, Multiset.map_zero, zero_add]
    refine .assembled valid kept finished ?_
    exact .of_answered kept fun index inside => marked.finished index inside (by simp)
  · have pending : data.markUnitReady.pendingQueries ≠ 0 := by
      rw [marked.pending]
      simpa using last
    rw [if_neg (by simpa [CalcData.isReady] using pending),
      ← Pi.single_zero unit.concurrentData]
    refine update accounted ?_
    rw [add_zero, remains]
    exact .decomposed valid kept last marked

/-- The responder gets a complete object. -/
theorem hand
    (accounted : Accounted applications heap
      (rest + (Load.object address .assembled).weight)) :
    (∃ data app, heap address = some data ∧
      data.Registered applications app ∧ data.Complete app) ∧
      Accounted applications heap
        (rest + (Load.object address .handed).weight) := by
  obtain ⟨none, data, app, live, valid, registered, finished, complete⟩ :=
    accounted.focus.of_assembled
  refine ⟨⟨data, app, live, registered, complete⟩, restage accounted ?_⟩
  rw [none, zero_add, live]
  exact .handed valid registered finished complete

/-- The responder deletes an object. -/
theorem delete
    (accounted : Accounted applications heap
      (rest + (Load.object address .handed).weight)) :
    ∃ data, heap address = some data ∧
      Accounted applications (Function.update heap address none) rest := by
  obtain ⟨none, data, live⟩ := accounted.focus.of_handed
  refine ⟨data, live, ?_⟩
  have removed : ObjectAt applications address Option.none (rest address + 0) := by
    rw [none]
    exact .absent
  have deleted := accounted.update removed
  rwa [Pi.single_zero, add_zero] at deleted

end Accounted

end Concurrente.WebServer
